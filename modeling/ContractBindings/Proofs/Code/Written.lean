import ContractBindings.Proofs.Code.Position

/-!
# Code as trees

Any code can be handed in as a tree: a node for each expression, statement, method or class,
with its names and types as texts.  The tree of code is read as this code again.  So the trees of
a module are rendered as the module is, and what is said of code that is read from trees holds of
code that was made in another way.
-/

namespace ContractBindings

/-! ## The trees of code -/

/-- The tree of the value that a literal holds. -/
def Literal.toTree : Literal → Tree
  | text value => .text value
  | number value => .number (.whole value)
  | truth value => .truth value

/-- The tree of a parameter. -/
def Variable.toParameter (v : Variable) : Tree :=
  .node .parameter [.text v.name, .text v.type]

/-- The tree of a field. -/
def Variable.toField (v : Variable) : Tree :=
  .node .field [.text v.name, .text v.type]

/-- The tree of a name or a type that may be absent. -/
def Tree.ofWord? : Option String → Tree
  | none => .null
  | some word => .text word

/-- The tree of a row of names or types. -/
def Tree.ofWords (words : List String) : Tree :=
  .row (words.map .text)

namespace Expr

mutual

/-- The tree of an expression. -/
def toTree : Expr → Tree
  | .name id => .node .name [.text id]
  | .self => .node .self []
  | .literal value => .node .literal [value.toTree]
  | .member object field => .node .member [object.toTree, .text field]
  | .index values position => .node .index [values.toTree, position.toTree]
  | .call receiver method arguments types =>
    .node .call [receiver.toTree, .text method, .row (toTrees arguments), .ofWords types]
  | .staticCall owner method arguments types =>
    .node .staticCall [.text owner, .text method, .row (toTrees arguments), .ofWords types]
  | .superCall method arguments => .node .superCall [.text method, .row (toTrees arguments)]
  | .new type arguments => .node .new [.text type, .row (toTrees arguments)]
  | .cast value type => .node .cast [value.toTree, .text type]
  | .list elements => .node .list [.row (toTrees elements)]
  | .lambda parameter type body =>
    .node .lambda [parameter.toParameter, .text type, body.toTree]

/-- The trees of a list of expressions. -/
def toTrees : List Expr → List Tree
  | [] => []
  | e :: es => e.toTree :: toTrees es

end

end Expr

/-- The tree of a statement. -/
def Stmt.toTree : Stmt → Tree
  | declare name value => .node .declare [.text name, value.toTree]
  | assign target value => .node .assign [target.toTree, value.toTree]
  | give value => .node .give [value.toTree]
  | effect value => .node .effect [value.toTree]

/-- The tree of a method. -/
def Method.toTree (m : Method) : Tree :=
  .node .method [.text m.name, .row (m.parameters.map (·.toParameter)), .ofWord? m.type,
    .row (m.body.map (·.toTree)), .text m.kind.word]

/-- The tree of a class. -/
def ClassDef.toTree (c : ClassDef) : Tree :=
  .node .classDef [.text c.name, .truth c.exported, .ofWord? c.base,
    .row (c.fields.map (·.toField)), .row (c.methods.map (·.toTree))]

/-- The tree of an import. -/
def Import.toTree (i : Import) : Tree :=
  .node .importDef [.ofWords i.names, .text i.module]

/-! ## Reading the trees of code -/

@[simp]
theorem Tree.word?_ofWord? (word : Option String) :
  (Tree.ofWord? word).word? = word
  := by
  cases word <;> rfl

@[simp]
theorem Tree.words_ofWords (words : List String) :
  (Tree.ofWords words).words = words
  := by
  simp [ofWords, Tree.words, Function.comp_def, Tree.word]

@[simp]
theorem MethodKind.ofWord_word (kind : MethodKind) :
  ofWord kind.word = kind
  := by
  cases kind <;> rfl

theorem Literal.ofTree?_toTree (value : Literal) :
  ofTree? value.toTree = .ok value
  := by
  cases value <;> rfl

theorem Variable.ofTree?_toParameter (v : Variable) :
  ofTree? v.toParameter = .ok v
  := rfl

theorem Variable.ofTree?_toField (v : Variable) :
  ofTree? v.toField = .ok v
  := rfl

/-- The trees of several parts are read as these parts, when the tree of each of them is. -/
theorem mapM_toTree {α : Type} {f : Tree → Except Misplaced α} {toTree : α → Tree}
    (each : ∀ a, f (toTree a) = .ok a) (as : List α) :
  (as.map toTree).mapM f = .ok as
  := by
  induction as with
  | nil => rfl
  | cons a as ih =>
      rw [List.map_cons, List.mapM_cons, each, ih]
      rfl

namespace Expr

mutual

/-- The tree of an expression is read as the expression. -/
theorem ofTree?_toTree (e : Expr) :
  ofTree? e.toTree = .ok e
  := by
  cases e with
  | name id => rfl
  | self => rfl
  | literal value =>
      rw [toTree, ofTree?, value.ofTree?_toTree]
      rfl
  | member object field =>
      rw [toTree, ofTree?, ofTree?_toTree object]
      rfl
  | index values position =>
      rw [toTree, ofTree?, ofTree?_toTree values, ofTree?_toTree position]
      rfl
  | call receiver method arguments types =>
      rw [toTree, ofTree?, ofTree?_toTree receiver, ofTrees?_toTrees, Tree.words_ofWords]
      rfl
  | staticCall owner method arguments types =>
      rw [toTree, ofTree?, ofTrees?_toTrees, Tree.words_ofWords]
      rfl
  | superCall method arguments =>
      rw [toTree, ofTree?, ofTrees?_toTrees]
      rfl
  | new type arguments =>
      rw [toTree, ofTree?, ofTrees?_toTrees]
      rfl
  | cast value type =>
      rw [toTree, ofTree?, ofTree?_toTree value]
      rfl
  | list elements =>
      rw [toTree, ofTree?, ofTrees?_toTrees]
      rfl
  | lambda parameter type body =>
      rw [toTree, ofTree?, parameter.ofTree?_toParameter, ofTree?_toTree body]
      rfl

/-- The trees of expressions are read as the expressions. -/
theorem ofTrees?_toTrees (es : List Expr) :
  ofTrees? (toTrees es) = .ok es
  := by
  cases es with
  | nil => rfl
  | cons e es =>
      rw [toTrees, ofTrees?, ofTree?_toTree e, ofTrees?_toTrees es]
      rfl

end

end Expr

/-- The tree of a statement is read as the statement. -/
theorem Stmt.ofTree?_toTree (s : Stmt) :
  ofTree? s.toTree = .ok s
  := by
  cases s <;> simp only [toTree, ofTree?, Expr.ofTree?_toTree] <;> rfl

/-- The tree of a method is read as the method. -/
theorem Method.ofTree?_toTree (m : Method) :
  ofTree? m.toTree = .ok m
  := by
  rw [toTree, ofTree?, mapM_toTree Variable.ofTree?_toParameter, mapM_toTree Stmt.ofTree?_toTree,
    Tree.word?_ofWord?, Tree.word, Tree.word, MethodKind.ofWord_word]
  rfl

/-- The tree of a class is read as the class. -/
theorem ClassDef.ofTree?_toTree (c : ClassDef) :
  ofTree? c.toTree = .ok c
  := by
  rw [toTree, ofTree?, mapM_toTree Variable.ofTree?_toField, mapM_toTree Method.ofTree?_toTree,
    Tree.word?_ofWord?]
  rfl

theorem Import.ofTree?_toTree (i : Import) :
  ofTree? i.toTree = .ok i
  := by
  rw [toTree, ofTree?, Tree.words_ofWords]
  rfl

/-- The trees of a module are rendered as the module. -/
theorem Module.renderTrees?_toTree (indent : String) (m : Module) :
  renderTrees? indent (m.imports.map (·.toTree)) (m.classes.map (·.toTree))
    = .ok (m.render indent)
  := by
  rw [renderTrees?, ofTrees?, mapM_toTree Import.ofTree?_toTree,
    mapM_toTree ClassDef.ofTree?_toTree]
  rfl

end ContractBindings
