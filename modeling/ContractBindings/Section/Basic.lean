import ContractBindings.Code.Declaration
import ContractBindings.Log.Note

/-!
# Sections

The bindings of an interface come in three sections, for its events, for the contract itself
and for its calls.  Each is a list of classes with the notes made on the way.
-/

namespace ContractBindings

/-- The classes of one section of the bindings, with the notes made on them. -/
structure Section where
  classes : List ClassDef
  notes : List Note

end ContractBindings
