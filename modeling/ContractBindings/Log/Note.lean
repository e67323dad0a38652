/-!
# Notes

A note tells where bindings differ from what their interface suggests: a function without
outputs is skipped, a function with outputs is excluded by the mutabilities that may be read,
an indexed parameter is known by its digest only, and a name that is taken is changed.
-/

namespace ContractBindings

/-- How much a note matters. -/
inductive Severity where
  | warning
  | info
deriving DecidableEq, Repr

/-- A note on a member.  The member and the kind of construct are empty when there is none to
state. -/
structure Note where
  severity : Severity
  code : String
  message : String
  member : String := ""
  construct : String := ""
deriving DecidableEq, Repr

/-- The word for a severity. -/
def Severity.word : Severity → String
  | warning => "warning"
  | info => "info"

namespace Note

/-- The note on a function without outputs, which has no method. -/
def skipped (function : String) : Note where
  severity := .info
  code := "I001"
  message := "Function has no outputs; no contract wrapper method generated."
  member := function
  construct := "function"

/-- The note on an indexed parameter that is decoded as a digest. -/
def hashed (event parameter type : String) : Note where
  severity := .info
  code := "I002"
  message := "Indexed parameter \"" ++ parameter ++ "\" of type " ++ type
    ++ " is decoded as its bytes32 topic hash."
  member := event
  construct := "event"

/-- The note on a name that is changed within a scope. -/
def renamed (scope candidate assigned : String) : Note where
  severity := .info
  code := "I003"
  message := "Duplicate name \"" ++ candidate ++ "\" renamed to \"" ++ assigned ++ "\"."
  member := scope
  construct := "name"

/-- The note on a function that has outputs and may not be read. -/
def excluded (function mutability : String) : Note where
  severity := .warning
  code := "W001"
  message := "Function is " ++ mutability
    ++ "; not exposed on the contract wrapper despite having outputs."
  member := function
  construct := "function"

/-- The note as a line of text. -/
def line (n : Note) : String :=
  "[" ++ n.severity.word ++ "] " ++ (if n.member = "" then "" else n.member ++ ": ")
    ++ n.message ++ " (" ++ n.code ++ ")"

/-- The group of a note. -/
def group (n : Note) : String :=
  if n.construct = "" then "other" else n.construct

end Note

end ContractBindings
