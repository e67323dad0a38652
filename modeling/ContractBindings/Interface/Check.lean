import ContractBindings.Interface.Member
import ContractBindings.Slot

/-!
# Checked interfaces

`Interface.check?` turns the parameters of an interface into slots, members in order, and in
a member the inputs before the outputs.  It gives the fault of the first parameter that
cannot be turned into one, with the label of the member as context.  An interface of slots is
all that bindings are made from, and nothing can fail after this.
-/

namespace ContractBindings

namespace Member

/-- The member with its parameters turned into slots. -/
def check? : Member Parameter → Except Fault (Member Slot)
  | function f => do
    let inputs ← Parameter.checkAll? (function f).label f.inputs
    let outputs ← Parameter.checkAll? (function f).label f.outputs
    return function ⟨f.name, inputs, outputs, f.mutability⟩
  | constructor inputs mutability => do
    let slots ← Parameter.checkAll? (constructor inputs mutability).label inputs
    return constructor slots mutability
  | event e => do
    let inputs ← Parameter.checkAll? (event e).label e.inputs
    return event ⟨e.name, inputs, e.anonymous⟩
  | fallback mutability => .ok (fallback mutability)

/-- The members with their parameters turned into slots. -/
def checkAll? : List (Member Parameter) → Except Fault (List (Member Slot))
  | [] => .ok []
  | m :: ms => return (← m.check?) :: (← checkAll? ms)

end Member

/-- The interface with its parameters turned into slots. -/
def Interface.check? (i : Interface Parameter) : Except Fault (Interface Slot) :=
  return ⟨i.name, ← Member.checkAll? i.members⟩

end ContractBindings
