import ContractBindings.Number.Basic

/-!
# Trees

A `Tree` is code as it is handed in from outside, before anything is known of what stands
where: a plain value, a row of trees, or a node of some kind with its parts.  Any tree may be
a part of any node.

`kind` tells what a tree is at its root, and `agrees` compares two trees part by part, where
numbers agree by value and the truth values with the numbers one and zero.
-/

namespace ContractBindings

/-- The kinds of nodes, each with its parts in order.  The kinds `anyNode`, `anyExpression` and
`anyStatement` stand for nothing in particular. -/
inductive NodeKind where
  | anyNode
  | anyExpression
  | anyStatement
  | name
  | self
  | literal
  | member
  | index
  | call
  | staticCall
  | superCall
  | new
  | cast
  | list
  | lambda
  | declare
  | assign
  | give
  | effect
  | parameter
  | field
  | method
  | classDef
  | importDef
deriving DecidableEq, Repr

/-- The word by which a message names a kind of node. -/
def NodeKind.word : NodeKind → String
  | anyNode => "Node"
  | anyExpression => "Expression"
  | anyStatement => "Statement"
  | name => "Identifier"
  | self => "This"
  | literal => "Literal"
  | member => "MemberAccess"
  | index => "IndexAccess"
  | call => "MethodCall"
  | staticCall => "StaticCall"
  | superCall => "SuperCall"
  | new => "New"
  | cast => "Cast"
  | list => "ArrayLiteral"
  | lambda => "Lambda"
  | declare => "Let"
  | assign => "Assign"
  | give => "Return"
  | effect => "ExpressionStatement"
  | parameter => "Param"
  | field => "Field"
  | method => "Method"
  | classDef => "ClassDefinition"
  | importDef => "ImportDefinition"

/-- What a tree is at its root. -/
inductive TreeKind where
  | null
  | truth
  | whole
  | decimal
  | text
  | row
  | node (kind : NodeKind)
deriving DecidableEq, Repr

namespace TreeKind

/-- The word by which a message names what a tree is. -/
def word : TreeKind → String
  | null => "NoneType"
  | truth => "bool"
  | whole => "int"
  | decimal => "float"
  | text => "str"
  | row => "tuple"
  | node kind => kind.word

/-- Whether a tree has a name among its parts. -/
def isNamed : TreeKind → Bool
  | node kind => kind ∈ [.name, .declare, .parameter, .field, .method, .classDef]
  | _ => false

end TreeKind

/-- Code as it is handed in. -/
inductive Tree where
  | null
  | truth (value : Bool)
  | number (value : Number)
  | text (value : String)
  | row (items : List Tree)
  | node (kind : NodeKind) (parts : List Tree)
deriving Inhabited

namespace Tree

/-- What a tree is at its root. -/
def kind : Tree → TreeKind
  | null => .null
  | truth _ => .truth
  | number (.whole _) => .whole
  | number (.decimal _) => .decimal
  | text _ => .text
  | row _ => .row
  | node kind _ => .node kind

/-- Whether a tree counts as given and true. -/
def holds : Tree → Bool
  | null => false
  | truth value => value
  | number value => !value.isZero
  | text value => value ≠ ""
  | row items => !items.isEmpty
  | node _ _ => true

/-- The spelling of a plain value.  A row or a node has none. -/
def word : Tree → String
  | null => "None"
  | truth true => "True"
  | truth false => "False"
  | number value => value.text
  | text value => value
  | row _ => ""
  | node _ _ => ""

/-- The spelling of a value that may be absent. -/
def word? : Tree → Option String
  | null => none
  | t => some t.word

/-- The spellings of the items of a row. -/
def words : Tree → List String
  | row items => items.map word
  | _ => []

/-- The number that a truth value agrees with. -/
def ofTruth : Bool → Number
  | true => .whole 1
  | false => .whole 0

mutual

/-- Whether two trees agree in every part. -/
def agrees : Tree → Tree → Bool
  | null, null => true
  | truth a, truth b => a == b
  | truth a, number n => (ofTruth a).same n
  | number n, truth a => n.same (ofTruth a)
  | number m, number n => m.same n
  | text a, text b => a == b
  | row ts, row us => agreesAll ts us
  | node k ts, node l us => k == l && agreesAll ts us
  | _, _ => false

/-- Whether two rows of trees agree, item by item. -/
def agreesAll : List Tree → List Tree → Bool
  | [], [] => true
  | t :: ts, u :: us => t.agrees u && agreesAll ts us
  | _, _ => false

end

end Tree

end ContractBindings
