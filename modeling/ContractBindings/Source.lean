import ContractBindings.Code.Expr

/-!
# Sources

Where a getter reads its value from: a position of a list that the event or the call behind
its object records, or a position of the object itself, which is how a struct holds its
components.
-/

namespace ContractBindings

/-- Where a getter reads from.  What is recorded hangs off the object under the name of the
reference, in the list of the given name. -/
inductive Source where
  | component
  | recorded (reference list : String)
deriving DecidableEq, Repr

namespace Source

/-- The reference to an event. -/
def eventReference : String := "event"

/-- The reference to a call. -/
def callReference : String := "call"

/-- The parameters of an event. -/
def eventParameters : Source := .recorded eventReference "parameters"

/-- The inputs of a call. -/
def callInputs : Source := .recorded callReference "inputValues"

/-- The outputs of a call. -/
def callOutputs : Source := .recorded callReference "outputValues"

/-- The source that a kind and the name of a list stand for. -/
def ofWords (kind list : String) : Source :=
  if kind = "tuple" then .component else .recorded kind list

/-- Whether the values are those of an event. -/
def isEvent : Source → Bool
  | component => false
  | recorded reference _ => reference == eventReference

/-- The field that holds a reference. -/
def fieldOf (reference : String) : String :=
  "_" ++ reference

/-- The expression for the value at a position. -/
def valueAt (position : Int) : Source → Expr
  | component => .index .self (.literal (.number position))
  | recorded reference list =>
    .member
      (.index (.member (.member .self (fieldOf reference)) list) (.literal (.number position)))
      "value"

/-- The word for a value without a name. -/
def word (source : Source) : String :=
  if source.isEvent then "param" else "value"

theorem word_ne_empty (source : Source) :
  source.word ≠ ""
  := by
  rw [word]
  split <;> decide

/-- The name of the value at a position when it has none of its own. -/
def defaultName (position : Int) (source : Source) : String :=
  source.word ++ toString position

end Source

end ContractBindings
