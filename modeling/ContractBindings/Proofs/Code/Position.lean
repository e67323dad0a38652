import ContractBindings.Code.Tree.Reading
import ContractBindings.Proofs.Fault

/-!
# Positions of trees

A position is a place that is reached when code is read from trees: a tree where something is
expected.  The positions of a tree are listed in the order of its text, and below a tree that is
not what is expected there are none.

A position is in place when its tree fits what is expected.  A tree is read as an expression, a
statement, a method, a class or a module precisely when all of its positions are in place, and
otherwise the reading fails with the fault of the first one that is not.
-/

namespace ContractBindings

namespace Tree

/-! ## Trees that fit -/

/-- Whether a tree is an expression at its root. -/
def isExpression : Tree → Bool
  | node .name [_] => true
  | node .self [] => true
  | node .literal [_] => true
  | node .member [_, _] => true
  | node .index [_, _] => true
  | node .call [_, _, row _, _] => true
  | node .staticCall [_, _, row _, _] => true
  | node .superCall [_, row _] => true
  | node .new [_, row _] => true
  | node .cast [_, _] => true
  | node .list [row _] => true
  | node .lambda [_, _, _] => true
  | _ => false

/-- Whether a tree is a statement at its root. -/
def isStatement : Tree → Bool
  | node .declare [_, _] => true
  | node .assign [_, _] => true
  | node .give [_] => true
  | node .effect [_] => true
  | _ => false

/-- Whether a tree is a value of a literal. -/
def isLiteralValue : Tree → Bool
  | text _ => true
  | number (.whole _) => true
  | truth _ => true
  | _ => false

/-- Whether a tree declares a variable. -/
def isVariable : Tree → Bool
  | node .parameter [_, _] => true
  | node .field [_, _] => true
  | _ => false

/-- Whether a tree is a method at its root. -/
def isMethod : Tree → Bool
  | node .method [_, row _, _, row _, _] => true
  | _ => false

/-- Whether a tree is a class at its root. -/
def isClassDef : Tree → Bool
  | node .classDef [_, _, _, row _, row _] => true
  | _ => false

/-- Whether a tree is an import. -/
def isImportDef : Tree → Bool
  | node .importDef [_, _] => true
  | _ => false

/-- Whether a tree is what is expected, at its root. -/
def fits (t : Tree) : Expected → Bool
  | .expression => t.isExpression
  | .statement => t.isStatement
  | .literalValue => t.isLiteralValue
  | .variable => t.isVariable
  | .method => t.isMethod
  | .classDef => t.isClassDef
  | .importDef => t.isImportDef

/-- Induction on a tree as an expression: by the kind of expression, or at a tree that is
none. -/
theorem expressionRec {P : Tree → Prop}
    (name : ∀ id, P (node .name [id]))
    (self : P (node .self []))
    (literal : ∀ value, P (node .literal [value]))
    (member : ∀ object field, P object → P (node .member [object, field]))
    (index : ∀ values position, P values → P position → P (node .index [values, position]))
    (call : ∀ receiver method arguments types, P receiver → (∀ t ∈ arguments, P t) →
      P (node .call [receiver, method, row arguments, types]))
    (staticCall : ∀ owner method arguments types, (∀ t ∈ arguments, P t) →
      P (node .staticCall [owner, method, row arguments, types]))
    (superCall : ∀ method arguments, (∀ t ∈ arguments, P t) →
      P (node .superCall [method, row arguments]))
    (new : ∀ type arguments, (∀ t ∈ arguments, P t) → P (node .new [type, row arguments]))
    (cast : ∀ value type, P value → P (node .cast [value, type]))
    (list : ∀ elements, (∀ t ∈ elements, P t) → P (node .list [row elements]))
    (lambda : ∀ parameter type body, P body → P (node .lambda [parameter, type, body]))
    (other : ∀ t, t.isExpression = false → P t) (t : Tree) :
  P t
  := by
  -- arguments stand in a row that is itself a part, so a row has to say it of its items as well
  suffices h : P t ∧ ∀ items, t = row items → ∀ u ∈ items, P u from h.1
  induction t using Tree.rec (motive_2 := fun ts => ∀ t ∈ ts, P t ∧
    ∀ items, t = row items → ∀ u ∈ items, P u) with
  | null => exact ⟨other _ rfl, nofun⟩
  | truth value => exact ⟨other _ rfl, nofun⟩
  | number value => exact ⟨other _ rfl, nofun⟩
  | text value => exact ⟨other _ rfl, nofun⟩
  | row items ih =>
      use other _ rfl
      rintro _ ⟨⟩ u hu
      apply (ih u hu).1
  | node kind parts ih =>
      refine ⟨?_, nofun⟩
      have part : ∀ t ∈ parts, P t := fun t ht => (ih t ht).1
      have item : ∀ items, row items ∈ parts → ∀ u ∈ items, P u := fun items h =>
        (ih _ h).2 items rfl
      cases h : (node kind parts).isExpression with
      | false => apply other _ h
      | true =>
          rw [isExpression.eq_def] at h
          split at h
          case h_13 => cases h
          all_goals rename_i same; cases same
          · apply name
          · apply self
          · apply literal
          · apply member _ _ (part _ (by simp))
          · apply index _ _ (part _ (by simp)) (part _ (by simp))
          · apply call _ _ _ _ (part _ (by simp)) (item _ (by simp))
          · apply staticCall _ _ _ _ (item _ (by simp))
          · apply superCall _ _ (item _ (by simp))
          · apply new _ _ (item _ (by simp))
          · apply cast _ _ (part _ (by simp))
          · apply list _ (item _ (by simp))
          · apply lambda _ _ _ (part _ (by simp))
  | nil => contradiction
  | cons t ts head tail =>
      next u hu =>
      obtain rfl | hu := List.mem_cons.mp hu
      · apply head
      · apply tail u hu

end Tree

/-! ## Positions -/

/-- A position that is reached when code is read from trees: a tree where something is
expected. -/
structure Position where
  expected : Expected
  found : Tree

namespace Position

/-- Whether the tree that stands at a position is what is expected there. -/
def InPlace (p : Position) : Prop :=
  p.found.fits p.expected = true

/-- The fault at a position, if there is one. -/
def fault? (p : Position) : Option Misplaced :=
  if p.found.fits p.expected then none else some ⟨p.expected, p.found.kind⟩

/-- A position is in place when there is no fault at it. -/
theorem fault?_eq_none_iff (p : Position) :
  p.fault? = none ↔ p.InPlace
  := by
  simp [fault?, InPlace]

/-- A position that is not in place has the fault of its tree. -/
theorem fault?_eq_some_iff (p : Position) (fault : Misplaced) :
  p.fault? = some fault ↔ ¬ p.InPlace ∧ fault = ⟨p.expected, p.found.kind⟩
  := by
  rw [fault?, InPlace]
  split
  · next fits => simp [fits]
  · next unfit =>
    rw [Option.some_inj, and_iff_right unfit]
    exact eq_comm

end Position

namespace Tree

mutual

/-- The positions of a tree as an expression. -/
def expressionPositions (t : Tree) : List Position :=
  ⟨.expression, t⟩ ::
    match t with
    | node .name [_] => []
    | node .self [] => []
    | node .literal [value] => [⟨.literalValue, value⟩]
    | node .member [object, _] => object.expressionPositions
    | node .index [values, position] =>
      values.expressionPositions ++ position.expressionPositions
    | node .call [receiver, _, row arguments, _] =>
      receiver.expressionPositions ++ positionsAll arguments
    | node .staticCall [_, _, row arguments, _] => positionsAll arguments
    | node .superCall [_, row arguments] => positionsAll arguments
    | node .new [_, row arguments] => positionsAll arguments
    | node .cast [value, _] => value.expressionPositions
    | node .list [row elements] => positionsAll elements
    | node .lambda [parameter, _, body] => ⟨.variable, parameter⟩ :: body.expressionPositions
    | _ => []

/-- The positions of trees as expressions, one after the other. -/
def positionsAll : List Tree → List Position
  | [] => []
  | t :: ts => t.expressionPositions ++ positionsAll ts

end

/-- The positions of a tree as a statement. -/
def statementPositions (t : Tree) : List Position :=
  ⟨.statement, t⟩ ::
    match t with
    | node .declare [_, value] => value.expressionPositions
    | node .assign [target, value] => target.expressionPositions ++ value.expressionPositions
    | node .give [value] => value.expressionPositions
    | node .effect [value] => value.expressionPositions
    | _ => []

/-- The positions of a tree as a method. -/
def methodPositions (t : Tree) : List Position :=
  ⟨.method, t⟩ ::
    match t with
    | node .method [_, row parameters, _, row body, _] =>
      parameters.map (⟨.variable, ·⟩) ++ body.flatMap statementPositions
    | _ => []

/-- The positions of a tree as a class. -/
def classPositions (t : Tree) : List Position :=
  ⟨.classDef, t⟩ ::
    match t with
    | node .classDef [_, _, _, row fields, row methods] =>
      fields.map (⟨.variable, ·⟩) ++ methods.flatMap methodPositions
    | _ => []

/-! ### Trees that are not what is expected -/

section

variable {t : Tree}

theorem expressionPositions_of_not_isExpression (h : t.isExpression = false) :
  t.expressionPositions = [⟨.expression, t⟩]
  := by
  rw [expressionPositions.eq_def]
  congr 1
  split <;> first | rfl | simp [isExpression] at h

theorem statementPositions_of_not_isStatement (h : t.isStatement = false) :
  t.statementPositions = [⟨.statement, t⟩]
  := by
  rw [statementPositions.eq_def]
  congr 1
  split <;> first | rfl | simp [isStatement] at h

theorem methodPositions_of_not_isMethod (h : t.isMethod = false) :
  t.methodPositions = [⟨.method, t⟩]
  := by
  rw [methodPositions.eq_def]
  congr 1
  split <;> first | rfl | simp [isMethod] at h

theorem classPositions_of_not_isClassDef (h : t.isClassDef = false) :
  t.classPositions = [⟨.classDef, t⟩]
  := by
  rw [classPositions.eq_def]
  congr 1
  split <;> first | rfl | simp [isClassDef] at h

end

end Tree

/-- The positions of a module whose imports and classes are given by trees. -/
def Module.positions (imports classes : List Tree) : List Position :=
  imports.map (⟨.importDef, ·⟩) ++ classes.flatMap Tree.classPositions

/-! ## Reading position by position -/

variable {α : Type} {read : Except Misplaced α} {positions : List Position}

/-- What is read from a tree that fits has the fault of the positions inside. -/
theorem of?_eq_of_fits {expected : Expected} {t : Tree} (h : t.fits expected)
    (inside : Fault.of? read = positions.findSome? Position.fault?) :
  Fault.of? read = (⟨expected, t⟩ :: positions).findSome? Position.fault?
  := by
  rw [List.findSome?_cons, Position.fault?, if_pos h, inside]

/-- A tree that does not fit is refused with the fault of its position. -/
theorem of?_error_of_not_fits (expected : Expected) {t : Tree} (h : t.fits expected = false) :
  Fault.of? (.error ⟨expected, t.kind⟩ : Except Misplaced α)
    = [⟨expected, t⟩].findSome? Position.fault?
  := by
  rw [List.findSome?_singleton, Position.fault?, h]
  rfl

/-- Two readings in sequence have the fault of the first position of either that is not in
place. -/
theorem of?_bind_append {β : Type} {f : α → Except Misplaced β} {more : List Position}
    (first : Fault.of? read = positions.findSome? Position.fault?)
    (second : ∀ a, Fault.of? (f a) = more.findSome? Position.fault?) :
  Fault.of? (read >>= f) = (positions ++ more).findSome? Position.fault?
  := by
  rw [List.findSome?_append, ← first]
  apply Fault.of?_bind
  intro a _
  apply second

/-- Readings one after the other have the fault of the first position of any of them that is not
in place. -/
theorem of?_mapM_flatMap {f : Tree → Except Misplaced α} {g : Tree → List Position}
    (each : ∀ t, Fault.of? (f t) = (g t).findSome? Position.fault?) (ts : List Tree) :
  Fault.of? (ts.mapM f) = (ts.flatMap g).findSome? Position.fault?
  := by
  induction ts with
  | nil => rfl
  | cons t ts ih =>
      rw [List.mapM_cons, List.flatMap_cons]
      apply of?_bind_append (each t)
      intro a
      rw [Fault.of?_bind_pure]
      apply ih

/-- Trees in a row that have no positions inside are refused with the fault of the first one
that is not in place. -/
theorem of?_mapM_map {f : Tree → Except Misplaced α} {expected : Expected}
    (each : ∀ t, Fault.of? (f t) = [⟨expected, t⟩].findSome? Position.fault?) (ts : List Tree) :
  Fault.of? (ts.mapM f) = (ts.map (⟨expected, ·⟩)).findSome? Position.fault?
  := by
  rw [List.map_eq_flatMap]
  apply of?_mapM_flatMap each

/-- A value of a literal is refused when it does not fit. -/
theorem Literal.of?_ofTree? (t : Tree) :
  Fault.of? (ofTree? t) = [⟨.literalValue, t⟩].findSome? Position.fault?
  := by
  rw [ofTree?.eq_def]
  split
  case h_4 =>
    apply of?_error_of_not_fits
    rw [Tree.fits, Tree.isLiteralValue.eq_def]
    split <;> simp_all
  all_goals rfl

/-- A variable is refused when it does not fit. -/
theorem Variable.of?_ofTree? (t : Tree) :
  Fault.of? (ofTree? t) = [⟨.variable, t⟩].findSome? Position.fault?
  := by
  rw [ofTree?.eq_def]
  split
  case h_3 =>
    apply of?_error_of_not_fits
    rw [Tree.fits, Tree.isVariable.eq_def]
    split <;> simp_all
  all_goals rfl

/-- An import is refused when it does not fit. -/
theorem Import.of?_ofTree? (t : Tree) :
  Fault.of? (ofTree? t) = [⟨.importDef, t⟩].findSome? Position.fault?
  := by
  rw [ofTree?.eq_def]
  split
  case h_2 =>
    apply of?_error_of_not_fits
    rw [Tree.fits, Tree.isImportDef.eq_def]
    split <;> simp_all
  all_goals rfl

namespace Expr

/-- What is read where something else is expected. -/
theorem ofTree?_of_not_isExpression {t : Tree} (h : t.isExpression = false) :
  ofTree? t = .error ⟨.expression, t.kind⟩
  := by
  rw [ofTree?.eq_def]
  split <;> first | rfl | simp [Tree.isExpression] at h

/-- What is read in a row has the fault of the first position in it that is not in place, when
so has each tree in the row. -/
theorem of?_ofTrees? {ts : List Tree} (each : ∀ t ∈ ts,
    Fault.of? (ofTree? t) = t.expressionPositions.findSome? Position.fault?) :
  Fault.of? (ofTrees? ts) = (Tree.positionsAll ts).findSome? Position.fault?
  := by
  induction ts with
  | nil => rfl
  | cons t ts ih =>
      rw [List.forall_mem_cons] at each
      rw [ofTrees?, Tree.positionsAll]
      apply of?_bind_append each.1
      intro e
      rw [Fault.of?_bind_pure]
      apply ih each.2

/-- A tree is read as an expression with the fault of its first position that is not in
place. -/
theorem of?_ofTree? (t : Tree) :
  Fault.of? (ofTree? t) = t.expressionPositions.findSome? Position.fault?
  := by
  induction t using Tree.expressionRec with
  | other t h =>
      rw [ofTree?_of_not_isExpression h, Tree.expressionPositions_of_not_isExpression h]
      apply of?_error_of_not_fits .expression h
  | name id =>
      rw [ofTree?, Tree.expressionPositions]
      apply of?_eq_of_fits rfl rfl
  | self =>
      rw [ofTree?, Tree.expressionPositions]
      apply of?_eq_of_fits rfl rfl
  | literal value =>
      rw [ofTree?, Tree.expressionPositions]
      apply of?_eq_of_fits rfl
      rw [Fault.of?_bind_pure]
      apply Literal.of?_ofTree?
  | member object field ih =>
      rw [ofTree?, Tree.expressionPositions]
      apply of?_eq_of_fits rfl
      rw [Fault.of?_bind_pure]
      apply ih
  | index values position ihValues ihPosition =>
      rw [ofTree?, Tree.expressionPositions]
      apply of?_eq_of_fits rfl
      apply of?_bind_append ihValues
      intro values
      rw [Fault.of?_bind_pure]
      apply ihPosition
  | call receiver method arguments types ihReceiver ihArguments =>
      rw [ofTree?, Tree.expressionPositions]
      apply of?_eq_of_fits rfl
      apply of?_bind_append ihReceiver
      intro receiver
      rw [Fault.of?_bind_pure]
      apply of?_ofTrees? ihArguments
  | staticCall owner method arguments types ih =>
      rw [ofTree?, Tree.expressionPositions]
      apply of?_eq_of_fits rfl
      rw [Fault.of?_bind_pure]
      apply of?_ofTrees? ih
  | superCall method arguments ih =>
      rw [ofTree?, Tree.expressionPositions]
      apply of?_eq_of_fits rfl
      rw [Fault.of?_bind_pure]
      apply of?_ofTrees? ih
  | new type arguments ih =>
      rw [ofTree?, Tree.expressionPositions]
      apply of?_eq_of_fits rfl
      rw [Fault.of?_bind_pure]
      apply of?_ofTrees? ih
  | cast value type ih =>
      rw [ofTree?, Tree.expressionPositions]
      apply of?_eq_of_fits rfl
      rw [Fault.of?_bind_pure]
      apply ih
  | list elements ih =>
      rw [ofTree?, Tree.expressionPositions]
      apply of?_eq_of_fits rfl
      rw [Fault.of?_bind_pure]
      apply of?_ofTrees? ih
  | lambda parameter type body ih =>
      rw [ofTree?, Tree.expressionPositions]
      apply of?_eq_of_fits rfl
      apply of?_bind_append (Variable.of?_ofTree? parameter)
      intro parameter
      rw [Fault.of?_bind_pure]
      apply ih

end Expr

/-- A tree is read as a statement with the fault of its first position that is not in place. -/
theorem Stmt.of?_ofTree? (t : Tree) :
  Fault.of? (ofTree? t) = t.statementPositions.findSome? Position.fault?
  := by
  cases h : t.isStatement with
  | false =>
      have unread : ofTree? t = .error ⟨.statement, t.kind⟩ := by
        rw [ofTree?.eq_def]
        split <;> first | rfl | simp [Tree.isStatement] at h
      rw [unread, Tree.statementPositions_of_not_isStatement h]
      apply of?_error_of_not_fits .statement h
  | true =>
      rw [Tree.isStatement.eq_def] at h
      split at h
      · apply of?_eq_of_fits rfl
        rw [ofTree?, Fault.of?_bind_pure]
        apply Expr.of?_ofTree?
      · apply of?_eq_of_fits rfl
        apply of?_bind_append (Expr.of?_ofTree? _)
        intro target
        rw [Fault.of?_bind_pure]
        apply Expr.of?_ofTree?
      · apply of?_eq_of_fits rfl
        rw [ofTree?, Fault.of?_bind_pure]
        apply Expr.of?_ofTree?
      · apply of?_eq_of_fits rfl
        rw [ofTree?, Fault.of?_bind_pure]
        apply Expr.of?_ofTree?
      · cases h

/-- A tree is read as a method with the fault of its first position that is not in place. -/
theorem Method.of?_ofTree? (t : Tree) :
  Fault.of? (ofTree? t) = t.methodPositions.findSome? Position.fault?
  := by
  cases h : t.isMethod with
  | false =>
      have unread : ofTree? t = .error ⟨.method, t.kind⟩ := by
        rw [ofTree?.eq_def]
        split <;> first | rfl | simp [Tree.isMethod] at h
      rw [unread, Tree.methodPositions_of_not_isMethod h]
      apply of?_error_of_not_fits .method h
  | true =>
      rw [Tree.isMethod.eq_def] at h
      split at h
      · apply of?_eq_of_fits rfl
        apply of?_bind_append (of?_mapM_map Variable.of?_ofTree? _)
        intro parameters
        rw [Fault.of?_bind_pure]
        apply of?_mapM_flatMap Stmt.of?_ofTree?
      · cases h

/-- A tree is read as a class with the fault of its first position that is not in place. -/
theorem ClassDef.of?_ofTree? (t : Tree) :
  Fault.of? (ofTree? t) = t.classPositions.findSome? Position.fault?
  := by
  cases h : t.isClassDef with
  | false =>
      have unread : ofTree? t = .error ⟨.classDef, t.kind⟩ := by
        rw [ofTree?.eq_def]
        split <;> first | rfl | simp [Tree.isClassDef] at h
      rw [unread, Tree.classPositions_of_not_isClassDef h]
      apply of?_error_of_not_fits .classDef h
  | true =>
      rw [Tree.isClassDef.eq_def] at h
      split at h
      · apply of?_eq_of_fits rfl
        apply of?_bind_append (of?_mapM_map Variable.of?_ofTree? _)
        intro fields
        rw [Fault.of?_bind_pure]
        apply of?_mapM_flatMap Method.of?_ofTree?
      · cases h

/-- Trees are read as a module with the fault of the first position that is not in place. -/
theorem Module.of?_ofTrees? (imports classes : List Tree) :
  Fault.of? (ofTrees? imports classes)
    = (Module.positions imports classes).findSome? Position.fault?
  := by
  apply of?_bind_append (of?_mapM_map Import.of?_ofTree? _)
  intro imports
  rw [Fault.of?_bind_pure]
  apply of?_mapM_flatMap ClassDef.of?_ofTree?

/-- Rendering the trees of a module fails with the fault of the first position that is not in
place. -/
theorem Module.of?_renderTrees? (indent : String) (imports classes : List Tree) :
  Fault.of? (renderTrees? indent imports classes)
    = (Module.positions imports classes).findSome? Position.fault?
  := by
  rw [renderTrees?, Fault.of?_bind_pure]
  apply of?_ofTrees?

/-- The trees of a module are rendered when all of its positions are in place. -/
theorem Module.exists_renderTrees?_iff (indent : String) (imports classes : List Tree) :
  (∃ text, renderTrees? indent imports classes = .ok text)
    ↔ ∀ p ∈ Module.positions imports classes, p.InPlace
  := by
  rw [← Fault.of?_eq_none_iff, of?_renderTrees?, List.findSome?_eq_none_iff]
  simp only [Position.fault?_eq_none_iff]

/-- A fault in rendering the trees of a module is that of a position that is not in place, with
all positions before it in place. -/
theorem Module.renderTrees?_eq_error_iff (indent : String) (imports classes : List Tree)
    (fault : Misplaced) :
  renderTrees? indent imports classes = .error fault
    ↔ ∃ before p after, Module.positions imports classes = before ++ p :: after
      ∧ (∀ q ∈ before, q.InPlace) ∧ ¬ p.InPlace ∧ fault = ⟨p.expected, p.found.kind⟩
  := by
  rw [← Fault.of?_eq_some_iff, of?_renderTrees?, List.findSome?_eq_some_iff]
  simp only [Position.fault?_eq_none_iff, Position.fault?_eq_some_iff]
  constructor
  · rintro ⟨before, p, after, listed, here, inPlace⟩
    exact ⟨before, p, after, listed, inPlace, here⟩
  · rintro ⟨before, p, after, listed, inPlace, here⟩
    exact ⟨before, p, after, listed, here, inPlace⟩

end ContractBindings
