import ContractBindings.Code.Declaration
import ContractBindings.Text.Joined
import ContractBindings.Text.Quoted

/-!
# Rendering

The text of expressions, statements, methods, classes, imports and modules.  Members of a
class are indented once and statements twice, by an indentation of choice.

The left side of a member access, an index or a call stands in parentheses when it is a cast
or a function, so that what follows does not attach to its last part.
-/

namespace ContractBindings

open Text

/-- A name with its type. -/
def Variable.render (v : Variable) : String :=
  v.name ++ ": " ++ v.type

/-- The text of a literal. -/
def Literal.render : Literal → String
  | text value => Text.quoted value
  | number value => toString value
  | truth true => "true"
  | truth false => "false"

/-- The type arguments of a call, in angle brackets, nothing when there are none. -/
def renderTypes (types : List String) : String :=
  if types = [] then "" else "<" ++ commaSeparated types ++ ">"

namespace Expr

/-- Whether an expression stands in parentheses on the left side of an access. -/
def isLoose : Expr → Bool
  | cast _ _ => true
  | lambda _ _ _ => true
  | _ => false

/-- The text of the left side of an access, for an expression with the given text. -/
def operand (e : Expr) (text : String) : String :=
  if e.isLoose then "(" ++ text ++ ")" else text

mutual

/-- The text of an expression. -/
def render : Expr → String
  | .name id => id
  | .self => "this"
  | .literal value => value.render
  | .member object field => object.operand object.render ++ "." ++ field
  | .index values position => values.operand values.render ++ "[" ++ position.render ++ "]"
  | .call receiver method arguments types =>
    receiver.operand receiver.render ++ "." ++ method ++ renderTypes types
      ++ "(" ++ commaSeparated (renderAll arguments) ++ ")"
  | .staticCall owner method arguments types =>
    owner ++ "." ++ method ++ renderTypes types
      ++ "(" ++ commaSeparated (renderAll arguments) ++ ")"
  | .superCall method arguments =>
    "super." ++ method ++ "(" ++ commaSeparated (renderAll arguments) ++ ")"
  | .new type arguments =>
    "new " ++ type ++ "(" ++ commaSeparated (renderAll arguments) ++ ")"
  | .cast value type => value.render ++ " as " ++ type
  | .list elements => "[" ++ commaSeparated (renderAll elements) ++ "]"
  | .lambda parameter type body =>
    "(" ++ parameter.render ++ "): " ++ type ++ " => " ++ body.render

/-- The texts of a list of expressions. -/
def renderAll : List Expr → List String
  | [] => []
  | e :: es => e.render :: renderAll es

end

end Expr

/-- The text of a statement. -/
def Stmt.render : Stmt → String
  | declare name value => "let " ++ name ++ " = " ++ value.render ++ ";"
  | assign target value => target.render ++ " = " ++ value.render ++ ";"
  | give value => "return " ++ value.render ++ ";"
  | effect value => value.render ++ ";"

namespace Method

/-- The parameters of a method with their types. -/
def renderParameters (m : Method) : String :=
  commaSeparated (m.parameters.map Variable.render)

/-- The type of a method after its parameters, nothing when there is none. -/
def renderType (m : Method) : String :=
  match m.type with
  | some type => if type = "" then "" else ": " ++ type
  | none => ""

/-- What stands before the body of a method.  A getter shows its type in any case. -/
def signature (m : Method) : String :=
  match m.kind with
  | .constructor => "constructor(" ++ m.renderParameters ++ ")"
  | .getter => "get " ++ m.name ++ "(): " ++ m.type.getD "None"
  | .plain => m.name ++ "(" ++ m.renderParameters ++ ")" ++ m.renderType
  | .static => "static " ++ m.name ++ "(" ++ m.renderParameters ++ ")" ++ m.renderType

/-- The lines of a method. -/
def renderLines (indent : String) (m : Method) : List String :=
  (indentation indent 1 ++ m.signature ++ " \x7b")
    :: m.body.map (fun s => indentation indent 2 ++ s.render)
    ++ [indentation indent 1 ++ "\x7d"]

end Method

namespace ClassDef

/-- What stands before the members of a class. -/
def header (c : ClassDef) : String :=
  let heading := (if c.exported then "export class " else "class ") ++ c.name
  match c.base with
  | some base => if base = "" then heading else heading ++ " extends " ++ base
  | none => heading

/-- The lines of the methods, a blank line before each but the first, and also before the
first when fields precede it. -/
def methodLines (indent : String) (after : Bool) : List Method → List String
  | [] => []
  | m :: ms => (if after then [""] else []) ++ m.renderLines indent ++ methodLines indent true ms

/-- The text of a class, which ends with a line break. -/
def render (indent : String) (c : ClassDef) : String :=
  joinLines
    ((c.header ++ " \x7b")
      :: c.fields.map (fun f => indentation indent 1 ++ f.render ++ ";")
      ++ methodLines indent (!c.fields.isEmpty) c.methods
      ++ ["\x7d\n"])

end ClassDef

/-- The text of an import, a line for each name. -/
def Import.render (indent : String) (i : Import) : String :=
  joinLines
    ("import \x7b"
      :: i.names.map (fun name => indentation indent 1 ++ name ++ ",")
      ++ ["\x7d from '" ++ i.module ++ "';"])

/-- The text of a module: the imports, a blank line if there are any, and the classes. -/
def Module.render (indent : String) (m : Module) : String :=
  joinLines
    (m.imports.map (Import.render indent)
      ++ (if m.imports.isEmpty then [] else [""])
      ++ m.classes.map (ClassDef.render indent))

end ContractBindings
