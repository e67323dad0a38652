import ContractBindings.Json

/-!
# Faults

The reasons for which an interface is refused, and the message that states each of them.
-/

namespace ContractBindings

/-- What is wrong with a member of an interface. -/
inductive Problem where
  | functionWithoutName
  | eventWithoutName
  | parameterWithoutType
  | unknownKind (word : String)
  | unknownMutability (word : String)
  | tupleWithoutComponents
  | structWithoutComponents (name : String)
deriving DecidableEq, Repr

/-- The wording of a problem. -/
def Problem.message : Problem → String
  | functionWithoutName => "function without a name"
  | eventWithoutName => "event without a name"
  | parameterWithoutType => "parameter without a type"
  | unknownKind word => "unknown member type \"" ++ word ++ "\""
  | unknownMutability word => "unknown stateMutability \"" ++ word ++ "\""
  | tupleWithoutComponents => "tuple parameter without components"
  | structWithoutComponents name => "tuple \"" ++ name ++ "\" has no components"

/-- Why an interface is refused.  The context of a type and the label of a member are empty
when there is none to state.  A value can be of the wrong kind where an object, a list or a plain
value is needed. -/
inductive Fault where
  | unsupportedType (type context : String)
  | malformedMember (problem : Problem) (member : String)
  | notAnObject (found : Json.Kind)
  | notAList (found : Json.Kind)
  | notPlain (found : Json.Kind)
deriving DecidableEq, Repr

namespace Fault

/-- The message on a type outside the grammar, with the place where it stands. -/
def typeMessage (type context : String) : String :=
  "Unsupported ABI type \"" ++ type ++ "\"" ++ if context = "" then "" else " in " ++ context

/-- A message on a member, after the label of the member. -/
def memberMessage (message member : String) : String :=
  if member = "" then message else member ++ ": " ++ message

/-- The message on a value of a type that lacks what it is asked for. -/
def lackMessage (type asked : String) : String :=
  "'" ++ type ++ "' object has no attribute '" ++ asked ++ "'"

/-- The wording of a fault. -/
def message : Fault → String
  | unsupportedType type context => typeMessage type context
  | malformedMember problem member => memberMessage problem.message member
  | notAnObject found => lackMessage found.word "get"
  | notAList found => "'" ++ found.word ++ "' object is not iterable"
  | notPlain found => "unhashable type: '" ++ found.word ++ "'"

end Fault

end ContractBindings
