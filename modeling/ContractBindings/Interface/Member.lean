import ContractBindings.Interface.Parameter

/-!
# Interfaces and their members

An interface is the name of a contract with its members, in order of declaration: functions,
constructors, events and fallbacks.  The parameters are of any type `α`, so that the same
members can hold parameters as declared (`Parameter`) and parameters as understood.

A state mutability is one of the words of `Mutability.words`; a member built by hand may
carry any word.
-/

namespace ContractBindings

namespace Mutability

/-- The words a declared state mutability is taken from. -/
def words : List String :=
  ["pure", "view", "nonpayable", "payable", "constant"]

/-- The mutabilities of what a transaction may call. -/
def changing : List String :=
  ["nonpayable", "payable"]

end Mutability

/-- A function with a name. -/
structure Function (α : Type) where
  name : String
  inputs : List α
  outputs : List α
  mutability : String
deriving DecidableEq

/-- An event that the contract emits. -/
structure Event (α : Type) where
  name : String
  inputs : List α
  anonymous : Bool
deriving DecidableEq

/-- A member of an interface. -/
inductive Member (α : Type) where
  | function (f : Function α)
  | constructor (inputs : List α) (mutability : String)
  | event (e : Event α)
  | fallback (mutability : String)
deriving DecidableEq

/-- What a transaction may call, with the name it goes by: the constructor and the fallback
have none of their own. -/
structure Call (α : Type) where
  name : String
  inputs : List α
  outputs : List α
deriving DecidableEq

namespace Member

variable {α : Type}

/-- The event a member is. -/
def event? : Member α → Option (Event α)
  | event e => some e
  | _ => none

/-- The function a member is. -/
def function? : Member α → Option (Function α)
  | function f => some f
  | _ => none

/-- The name of a member among calls: its own, or a default that tells what it is. -/
def callName : Member α → String
  | function f => if f.name = "" then "default" else f.name
  | event e => if e.name = "" then "default" else e.name
  | constructor _ _ => "constructor"
  | fallback _ => "default"

/-- The inputs of a member. -/
def inputs : Member α → List α
  | function f => f.inputs
  | constructor inputs _ => inputs
  | event e => e.inputs
  | fallback _ => []

/-- The outputs of a member. -/
def outputs : Member α → List α
  | function f => f.outputs
  | _ => []

/-- Whether a transaction may call a member: a constructor, or a function or fallback whose
mutability lets it change the state. -/
def isCall : Member α → Bool
  | function f => decide (f.mutability ∈ Mutability.changing)
  | constructor _ _ => true
  | event _ => false
  | fallback mutability => decide (mutability ∈ Mutability.changing)

/-- The call a member is. -/
def call? (m : Member α) : Option (Call α) :=
  if m.isCall then some ⟨m.callName, m.inputs, m.outputs⟩ else none

/-- The label of a member in a message on one of its parameters. -/
def label : Member α → String
  | event e => e.name
  | m => m.callName

end Member

/-- The name of a contract with its members, in order of declaration. -/
structure Interface (α : Type) where
  name : String
  members : List (Member α)
deriving DecidableEq

namespace Interface

variable {α : Type}

/-- The events, in order. -/
def events (i : Interface α) : List (Event α) :=
  i.members.filterMap Member.event?

/-- The functions, in order. -/
def functions (i : Interface α) : List (Function α) :=
  i.members.filterMap Member.function?

/-- What a transaction may call, in order. -/
def calls (i : Interface α) : List (Call α) :=
  i.members.filterMap Member.call?

end Interface

end ContractBindings
