import ContractBindings.Code.Expr

/-!
# Declarations

Methods, classes and imports, and the module that they make up.
-/

namespace ContractBindings

/-- How a method is declared on its class. -/
inductive MethodKind where
  | constructor
  | getter
  | plain
  | static
deriving DecidableEq, Repr

/-- A method, with the statements of its body. -/
structure Method where
  name : String
  parameters : List Variable := []
  type : Option String := none
  body : List Stmt := []
  kind : MethodKind := .plain

/-- A class.  A base that is empty counts as none. -/
structure ClassDef where
  name : String
  exported : Bool := true
  base : Option String := none
  fields : List Variable := []
  methods : List Method := []

/-- Names imported from a module. -/
structure Import where
  names : List String
  module : String
deriving DecidableEq, Repr

/-- The imports and the classes of a module. -/
structure Module where
  imports : List Import
  classes : List ClassDef

end ContractBindings
