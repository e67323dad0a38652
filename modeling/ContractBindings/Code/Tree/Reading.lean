import ContractBindings.Code.Render
import ContractBindings.Code.Tree.Basic
import ContractBindings.Fault

/-!
# Reading code from trees

A tree is read as an expression, a statement, a method, a class or a module, from left to
right in the order of its text.  The reading fails at the first node that stands where it
cannot, and at a literal without a text, a whole number or a truth value.  What has been read
can be rendered, so the fault of `Expr.ofTree?` and its companions is the only one that
rendering a tree can meet.

Where a name or a type is expected any plain value is taken by its spelling.
-/

namespace ContractBindings

/-- What is expected in the place of a tree. -/
inductive Expected where
  | expression
  | statement
  | literalValue
  | variable
  | method
  | classDef
  | importDef
deriving DecidableEq, Repr

/-- Why code cannot be rendered: a tree is not what is expected in its place. -/
structure Misplaced where
  expected : Expected
  found : TreeKind
deriving DecidableEq, Repr

/-- The wording of the fault.  What is neither an expression nor a statement is told by the first
attribute that it lacks. -/
def Misplaced.message (m : Misplaced) : String :=
  match m.expected with
  | .expression => "Cannot emit expression " ++ m.found.word
  | .statement => "Cannot emit statement " ++ m.found.word
  | .literalValue => Fault.lackMessage m.found.word "replace"
  | .variable => Fault.lackMessage m.found.word (if m.found.isNamed then "type" else "name")
  | .method => Fault.lackMessage m.found.word "params"
  | .classDef => Fault.lackMessage m.found.word "exported"
  | .importDef => Fault.lackMessage m.found.word "names"

/-- The value that a literal holds. -/
def Literal.ofTree? : Tree → Except Misplaced Literal
  | .text value => .ok (.text value)
  | .number (.whole value) => .ok (.number value)
  | .truth value => .ok (.truth value)
  | t => .error ⟨.literalValue, t.kind⟩

/-- The variable that a tree declares, be it as a parameter or as a field. -/
def Variable.ofTree? : Tree → Except Misplaced Variable
  | .node .parameter [name, type] => .ok ⟨name.word, type.word⟩
  | .node .field [name, type] => .ok ⟨name.word, type.word⟩
  | t => .error ⟨.variable, t.kind⟩

namespace Expr

mutual

/-- The expression that a tree is. -/
def ofTree? : Tree → Except Misplaced Expr
  | .node .name [id] => .ok (.name id.word)
  | .node .self [] => .ok .self
  | .node .literal [value] => return .literal (← Literal.ofTree? value)
  | .node .member [object, field] => return .member (← ofTree? object) field.word
  | .node .index [values, position] => return .index (← ofTree? values) (← ofTree? position)
  | .node .call [receiver, method, .row arguments, types] =>
    return .call (← ofTree? receiver) method.word (← ofTrees? arguments) types.words
  | .node .staticCall [owner, method, .row arguments, types] =>
    return .staticCall owner.word method.word (← ofTrees? arguments) types.words
  | .node .superCall [method, .row arguments] =>
    return .superCall method.word (← ofTrees? arguments)
  | .node .new [type, .row arguments] => return .new type.word (← ofTrees? arguments)
  | .node .cast [value, type] => return .cast (← ofTree? value) type.word
  | .node .list [.row elements] => return .list (← ofTrees? elements)
  | .node .lambda [parameter, type, body] =>
    return .lambda (← Variable.ofTree? parameter) type.word (← ofTree? body)
  | t => .error ⟨.expression, t.kind⟩

/-- The expressions that a row of trees are. -/
def ofTrees? : List Tree → Except Misplaced (List Expr)
  | [] => .ok []
  | t :: ts => return (← ofTree? t) :: (← ofTrees? ts)

end

end Expr

/-- The statement that a tree is. -/
def Stmt.ofTree? : Tree → Except Misplaced Stmt
  | .node .declare [name, value] => return .declare name.word (← Expr.ofTree? value)
  | .node .assign [target, value] =>
    return .assign (← Expr.ofTree? target) (← Expr.ofTree? value)
  | .node .give [value] => return .give (← Expr.ofTree? value)
  | .node .effect [value] => return .effect (← Expr.ofTree? value)
  | t => .error ⟨.statement, t.kind⟩

/-- The kind of method that a word stands for.  Any other word is a plain method. -/
def MethodKind.ofWord (word : String) : MethodKind :=
  if word = "constructor" then .constructor
  else if word = "getter" then .getter
  else if word = "static" then .static
  else .plain

/-- The word for a kind of method. -/
def MethodKind.word : MethodKind → String
  | constructor => "constructor"
  | getter => "getter"
  | plain => "method"
  | static => "static"

/-- The method that a tree is. -/
def Method.ofTree? : Tree → Except Misplaced Method
  | .node .method [name, .row parameters, type, .row body, kind] => do
    let parameters ← parameters.mapM Variable.ofTree?
    let body ← body.mapM Stmt.ofTree?
    return ⟨name.word, parameters, type.word?, body, MethodKind.ofWord kind.word⟩
  | t => .error ⟨.method, t.kind⟩

/-- The class that a tree is. -/
def ClassDef.ofTree? : Tree → Except Misplaced ClassDef
  | .node .classDef [name, exported, base, .row fields, .row methods] => do
    let fields ← fields.mapM Variable.ofTree?
    let methods ← methods.mapM Method.ofTree?
    return ⟨name.word, exported.holds, base.word?, fields, methods⟩
  | t => .error ⟨.classDef, t.kind⟩

/-- The import that a tree is. -/
def Import.ofTree? : Tree → Except Misplaced Import
  | .node .importDef [names, module] => .ok ⟨names.words, module.word⟩
  | t => .error ⟨.importDef, t.kind⟩

/-- The module whose imports and classes are given by trees. -/
def Module.ofTrees? (imports classes : List Tree) : Except Misplaced Module :=
  return ⟨← imports.mapM Import.ofTree?, ← classes.mapM ClassDef.ofTree?⟩

/-- The text of a tree as what is expected in its place.  A method has a text for each line. -/
def Tree.render? (indent : String) (t : Tree) : Expected → Except Misplaced (List String)
  | .expression => return [(← Expr.ofTree? t).render]
  | .statement => return [(← Stmt.ofTree? t).render]
  | .literalValue => return [(← Literal.ofTree? t).render]
  | .variable => return [(← Variable.ofTree? t).render]
  | .method => return (← Method.ofTree? t).renderLines indent
  | .classDef => return [(← ClassDef.ofTree? t).render indent]
  | .importDef => return [(← Import.ofTree? t).render indent]

/-- The text of the module whose imports and classes are given by trees. -/
def Module.renderTrees? (indent : String) (imports classes : List Tree) :
    Except Misplaced String :=
  return (← Module.ofTrees? imports classes).render indent

end ContractBindings
