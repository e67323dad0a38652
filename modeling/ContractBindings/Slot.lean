import ContractBindings.Interface.Parameter
import ContractBindings.Name.Distinct
import ContractBindings.Types.Shape

/-!
# Slots

A slot is a parameter whose type is understood: the place of one value in an event, a call or
a tuple.  `Parameter.check?` turns a parameter into a slot if its type is one that an
interface may declare and, for a tuple, it has components and all of them can be turned into
slots.  Otherwise it gives the first fault, a parameter before its components, with the names
of the parameters around it as context.

The fields of a slot, which are the components of its tuple, carry the distinct names by which
the bindings call them.  A slot that comes out of a check carries its declared name, until
`Slot.named` gives names to the slots that stand side by side.
-/

namespace ContractBindings

/-- A parameter whose type is understood.  The name is empty when it has none, and there are
fields for a tuple only. -/
structure Slot where
  name : String
  type : String
  indexed : Bool
  shape : Shape
  fields : List Slot

namespace Slot

/-- The word for a component without a name. -/
def componentWord : String := "value"

/-- Slots that stand side by side, with distinct names. -/
def named (word : String) (taken : List String) (slots : List Slot) : List Slot :=
  List.zipWith (fun name s => { s with name := name })
    (Name.siblings word taken (slots.map (·.name))) slots

@[simp]
theorem length_named (word : String) (taken : List String) (slots : List Slot) :
  (named word taken slots).length = slots.length
  := by
  simp [named]

theorem map_name_named (word : String) (taken : List String) (slots : List Slot) :
  (named word taken slots).map (·.name) = Name.siblings word taken (slots.map (·.name))
  := by
  apply List.ext_getElem <;> simp [named]

/-- The slot under which the value of an input of an event is recorded: for an indexed input
of a hashed type, that of a digest. -/
def recorded (s : Slot) : Slot :=
  if s.indexed && Topic.isHashed s.type then
    { s with shape := .scalar Topic.digest, fields := [] }
  else
    s

end Slot

namespace Parameter

/-- The context of a parameter within the context around it. -/
def contextIn (context name : String) : String :=
  if name = "" then context else context ++ "." ++ name

mutual

/-- The slot of a parameter that an interface may declare. -/
def check? (context : String) : Parameter → Except Fault Slot
  | ⟨type, name, indexed, components⟩ => do
    let name := name.getD ""
    let context := contextIn context name
    let shape ← (TypeExpr.ofString type).check? context
    let fields ← if shape.isTuple then checkComponents? context components else .ok []
    return ⟨name, type, indexed, shape, fields⟩

/-- The slots of the components of a tuple, which have to be there. -/
def checkComponents? (context : String) : Option (List Parameter) → Except Fault (List Slot)
  | some (p :: ps) => return Slot.named Slot.componentWord [] (← checkAll? context (p :: ps))
  | _ => .error (.malformedMember .tupleWithoutComponents context)

/-- The slots of parameters that stand side by side. -/
def checkAll? (context : String) : List Parameter → Except Fault (List Slot)
  | [] => .ok []
  | p :: ps => return (← check? context p) :: (← checkAll? context ps)

end

end Parameter

end ContractBindings
