/-!
# Expressions and statements

The expressions and statements that stand in the methods of generated classes.  An
expression names a variable, reads or calls members of another, makes a new object, casts,
lists elements, or maps elements by a function of one parameter; a statement declares a
local, assigns, returns a value, or evaluates an expression for its effect.
-/

namespace ContractBindings

/-- A name with the type it is declared at. -/
structure Variable where
  name : String
  type : String
deriving DecidableEq, Repr

/-- The value of a literal. -/
inductive Literal where
  | text (value : String)
  | number (value : Int)
  | truth (value : Bool)
deriving DecidableEq, Repr

/-- An expression. -/
inductive Expr where
  | name (id : String)
  | self
  | literal (value : Literal)
  | member (object : Expr) (field : String)
  | index (values position : Expr)
  | call (receiver : Expr) (method : String) (arguments : List Expr) (types : List String)
  | staticCall (owner method : String) (arguments : List Expr) (types : List String)
  | superCall (method : String) (arguments : List Expr)
  | new (type : String) (arguments : List Expr)
  | cast (value : Expr) (type : String)
  | list (elements : List Expr)
  | lambda (parameter : Variable) (type : String) (body : Expr)
deriving Inhabited

/-- A statement. -/
inductive Stmt where
  | declare (name : String) (value : Expr)
  | assign (target value : Expr)
  | give (value : Expr)
  | effect (value : Expr)

end ContractBindings
