import ContractBindings.Code.Declaration
import ContractBindings.Source

/-!
# Holders

A holder is a class that keeps a reference to an event or a call and has a getter for each
of the values that are recorded there.  The class of the event or call makes a fresh holder
in a getter of its own.
-/

namespace ContractBindings

namespace Holder

/-- The holder of a reference to an object of the class `owner`. -/
def classDef (name reference owner : String) (getters : List Method) : ClassDef where
  name := name
  fields := [⟨Source.fieldOf reference, owner⟩]
  methods :=
    { name := "constructor"
      parameters := [⟨reference, owner⟩]
      body := [.assign (.member .self (Source.fieldOf reference)) (.name reference)]
      kind := .constructor }
    :: getters

/-- The getter that makes a fresh holder for an object. -/
def getter (name holder : String) : Method where
  name := name
  type := some holder
  body := [.give (.new holder [.self])]
  kind := .getter

end Holder

end ContractBindings
