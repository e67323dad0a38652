import ContractBindings.Proofs.Code.Agreement
import ContractBindings.Proofs.Text.Parting

/-!
# Texts of trees that agree

Trees that agree differ at most in how they hold their values: a truth value may stand where the
other has one of the numbers one and zero, and a decimal number where the other has a whole one.
The texts of code that is read from such trees tell whether they do: they are the same if the
trees are of the same kind at all positions, and part otherwise.  This takes names and types
that are texts, as those of all code are.
-/

namespace ContractBindings

open Text

namespace Tree

/-! ## Names and types -/

/-- A name or a type. -/
def IsText (t : Tree) : Prop :=
  ∃ word, t = text word

/-- A type that may be absent. -/
def IsText? (t : Tree) : Prop :=
  t = null ∨ t.IsText

/-- A row of names or types. -/
def IsTexts (t : Tree) : Prop :=
  ∃ words : List String, t = row (words.map text)

/-- The name and the type of a variable are texts. -/
def LetteredVariable : Tree → Prop
  | node .parameter [name, type] => name.IsText ∧ type.IsText
  | node .field [name, type] => name.IsText ∧ type.IsText
  | _ => True

mutual

/-- All names and types in an expression are texts. -/
def LetteredExpression : Tree → Prop
  | node .name [id] => id.IsText
  | node .member [object, field] => object.LetteredExpression ∧ field.IsText
  | node .index [values, position] => values.LetteredExpression ∧ position.LetteredExpression
  | node .call [receiver, method, row arguments, types] =>
    receiver.LetteredExpression ∧ method.IsText ∧ LetteredExpressions arguments ∧ types.IsTexts
  | node .staticCall [owner, method, row arguments, types] =>
    owner.IsText ∧ method.IsText ∧ LetteredExpressions arguments ∧ types.IsTexts
  | node .superCall [method, row arguments] => method.IsText ∧ LetteredExpressions arguments
  | node .new [type, row arguments] => type.IsText ∧ LetteredExpressions arguments
  | node .cast [value, type] => value.LetteredExpression ∧ type.IsText
  | node .list [row elements] => LetteredExpressions elements
  | node .lambda [parameter, type, body] =>
    parameter.LetteredVariable ∧ type.IsText ∧ body.LetteredExpression
  | _ => True

/-- The same for the expressions in a row. -/
def LetteredExpressions : List Tree → Prop
  | [] => True
  | t :: ts => t.LetteredExpression ∧ LetteredExpressions ts

end

/-- All names and types in a statement are texts. -/
def LetteredStatement : Tree → Prop
  | node .declare [name, value] => name.IsText ∧ value.LetteredExpression
  | node .assign [target, value] => target.LetteredExpression ∧ value.LetteredExpression
  | node .give [value] => value.LetteredExpression
  | node .effect [value] => value.LetteredExpression
  | _ => True

/-- All names and types in a method are texts, and so is the word for its kind. -/
def LetteredMethod : Tree → Prop
  | node .method [name, row parameters, type, row body, kind] =>
    name.IsText ∧ (∀ t ∈ parameters, t.LetteredVariable) ∧ type.IsText?
      ∧ (∀ t ∈ body, t.LetteredStatement) ∧ kind.IsText
  | _ => True

/-- All names and types in a class are texts. -/
def LetteredClassDef : Tree → Prop
  | node .classDef [name, _, base, row fields, row methods] =>
    name.IsText ∧ base.IsText? ∧ (∀ t ∈ fields, t.LetteredVariable)
      ∧ ∀ t ∈ methods, t.LetteredMethod
  | _ => True

/-- All names in an import are texts. -/
def LetteredImportDef : Tree → Prop
  | node .importDef [names, module] => names.IsTexts ∧ module.IsText
  | _ => True

variable {t u : Tree}

theorem IsText.eq_of_agrees (h : t.IsText) (agree : t.agrees u) :
  u = t
  := by
  obtain ⟨word, rfl⟩ := h
  apply agrees_text_iff.mp agree

theorem IsText?.eq_of_agrees (h : t.IsText?) (agree : t.agrees u) :
  u = t
  := by
  obtain rfl | h := h
  · apply agrees_null_iff.mp agree
  · apply h.eq_of_agrees agree

theorem IsTexts.eq_of_agrees (h : t.IsTexts) (agree : t.agrees u) :
  u = t
  := by
  obtain ⟨words, rfl⟩ := h
  obtain ⟨us, rfl, items⟩ := agrees_row_iff.mp agree
  clear agree
  congr 1
  induction words generalizing us with
  | nil =>
      cases items
      rfl
  | cons word words ih =>
      cases items with
      | cons first rest => rw [agrees_text_iff.mp first, ih _ rest, List.map_cons]

end Tree

/-! ## Kinds at positions -/

namespace Position

/-- The trees at positions are of the same kinds, one by one. -/
def SameKinds (ps qs : List Position) : Prop :=
  ps.map kind = qs.map kind

theorem sameKinds_cons_iff {p q : Position} {ps qs : List Position} (h : p.kind = q.kind) :
  SameKinds (p :: ps) (q :: qs) ↔ SameKinds ps qs
  := by
  simp [SameKinds, h]

/-- Trees of one kind do not differ. -/
theorem sameKinds_tree_cons_iff {expected : Expected} {t u : Tree} (h : t.kind = u.kind)
    {ps qs : List Position} :
  SameKinds (⟨expected, t⟩ :: ps) (⟨expected, u⟩ :: qs) ↔ SameKinds ps qs
  := sameKinds_cons_iff h

/-- Nodes of one kind do not differ. -/
theorem sameKinds_node_cons_iff {expected : Expected} {kind : NodeKind} {ts us : List Tree}
    {ps qs : List Position} :
  SameKinds (⟨expected, .node kind ts⟩ :: ps) (⟨expected, .node kind us⟩ :: qs)
    ↔ SameKinds ps qs
  := sameKinds_cons_iff rfl

theorem sameKinds_append_iff {ps qs ps' qs' : List Position} (h : List.Forall₂ Corresponds ps qs) :
  SameKinds (ps ++ ps') (qs ++ qs') ↔ SameKinds ps qs ∧ SameKinds ps' qs'
  := by
  have lengths : (ps.map kind).length = (qs.map kind).length := by
    rw [List.length_map, List.length_map, h.length_eq]
  rw [SameKinds, List.map_append, List.map_append]
  constructor
  · intro same
    apply List.append_inj same lengths
  · rintro ⟨same, same'⟩
    rw [same, same']

end Position

open Position

/-! ## Variables, imports and expressions -/

/-- Variables that agree are of one kind and read as one. -/
theorem Variable.ofTree?_of_agrees {t u : Tree} (lettered : t.LetteredVariable)
    (agree : t.agrees u) {v v' : Variable} (ht : ofTree? t = .ok v) (hu : ofTree? u = .ok v') :
  t.kind = u.kind ∧ v = v'
  := by
  rw [ofTree?.eq_def] at ht
  split at ht
  · obtain ⟨_, _, rfl, name, type⟩ := Tree.exists_of_agrees_binary agree
    rw [lettered.1.eq_of_agrees name, lettered.2.eq_of_agrees type] at hu
    exact ⟨rfl, Except.ok.inj (ht.symm.trans hu)⟩
  · obtain ⟨_, _, rfl, name, type⟩ := Tree.exists_of_agrees_binary agree
    rw [lettered.1.eq_of_agrees name, lettered.2.eq_of_agrees type] at hu
    exact ⟨rfl, Except.ok.inj (ht.symm.trans hu)⟩
  · cases ht

/-- Imports that agree are of one kind and read as one. -/
theorem Import.ofTree?_of_agrees {t u : Tree} (lettered : t.LetteredImportDef)
    (agree : t.agrees u) {i i' : Import} (ht : ofTree? t = .ok i) (hu : ofTree? u = .ok i') :
  t.kind = u.kind ∧ i = i'
  := by
  rw [ofTree?.eq_def] at ht
  split at ht
  · obtain ⟨_, _, rfl, names, module⟩ := Tree.exists_of_agrees_binary agree
    rw [lettered.1.eq_of_agrees names, lettered.2.eq_of_agrees module] at hu
    exact ⟨rfl, Except.ok.inj (ht.symm.trans hu)⟩
  · cases ht

/-- A truth value and the number that it agrees with have texts that part. -/
theorem Literal.part_render_truth {value : Bool} {n : Int}
    (same : (Tree.ofTruth value).same (.whole n)) :
  Part (truth value).render (number n).render
  := by
  cases value with
  | true =>
      obtain rfl := beq_iff_eq.mp same
      decide
  | false =>
      obtain rfl := beq_iff_eq.mp same
      decide

/-- Values of literals that agree are told by their texts. -/
theorem Literal.tells_render {t u : Tree} (agree : t.agrees u) {value value' : Literal}
    (ht : ofTree? t = .ok value) (hu : ofTree? u = .ok value') :
  Tells (t.kind = u.kind) value.render value'.render
  := by
  rw [ofTree?.eq_def] at ht
  split at ht
  · obtain rfl := Tree.agrees_text_iff.mp agree
    obtain rfl := Except.ok.inj (ht.symm.trans hu)
    apply Tells.same rfl
  · next m =>
    obtain rfl := Except.ok.inj ht
    rw [ofTree?.eq_def] at hu
    split at hu
    · cases agree
    · next n =>
      obtain rfl := Except.ok.inj hu
      obtain rfl := beq_iff_eq.mp agree
      apply Tells.same rfl
    · next value =>
      obtain rfl := Except.ok.inj hu
      rw [Tree.agrees, Number.same_comm] at agree
      right
      use (by rintro ⟨⟩)
      apply (part_render_truth agree).symm
    · cases hu
  · next value =>
    obtain rfl := Except.ok.inj ht
    rw [ofTree?.eq_def] at hu
    split at hu
    · cases agree
    · next n =>
      obtain rfl := Except.ok.inj hu
      right
      use (by rintro ⟨⟩)
      apply part_render_truth agree
    · next value' =>
      obtain rfl := Except.ok.inj hu
      obtain rfl := beq_iff_eq.mp agree
      apply Tells.same rfl
    · cases hu
  · cases ht

namespace Expr

/-- The left sides of accesses tell what the expressions in them do. -/
theorem tells_operand {fact : Prop} {e e' : Expr} (loose : e.isLoose = e'.isLoose)
    {text text' : String} (h : Tells fact text text') :
  Tells fact (e.operand text) (e'.operand text')
  := by
  rw [operand, operand, loose]
  split
  · apply (h.after "(").before ")"
  · apply h

/-- Whether two trees are of the same kind at all positions is told by the texts of the
expressions that they are. -/
def Told (t u : Tree) : Prop :=
  ∀ {e e' : Expr}, ofTree? t = .ok e → ofTree? u = .ok e' →
    e.isLoose = e'.isLoose
      ∧ Tells (SameKinds t.expressionPositions u.expressionPositions) e.render e'.render

/-- The same for two rows of trees and the texts of the expressions in them. -/
def ToldAll (ts us : List Tree) : Prop :=
  ∀ ⦃es es' : List Expr⦄, ofTrees? ts = .ok es → ofTrees? us = .ok es' →
    TellIn (SameKinds (Tree.positionsAll ts) (Tree.positionsAll us)) (renderAll es) (renderAll es')

/-! ### Expressions by their kinds -/

namespace Told

theorem refl (t : Tree) :
  Told t t
  := by
  intro e e' ht hu
  obtain rfl := Except.ok.inj (ht.symm.trans hu)
  exact ⟨rfl, .same rfl _⟩

theorem literal {value value' : Tree} (agree : value.agrees value') :
  Told (.node .literal [value]) (.node .literal [value'])
  := by
  intro e e' ht hu
  simp only [ofTree?, Fault.bind_eq_ok_iff] at ht hu
  obtain ⟨v, hv, ⟨⟩⟩ := ht
  obtain ⟨v', hv', ⟨⟩⟩ := hu
  use rfl
  apply (Literal.tells_render agree hv hv').of_iff
  simp [SameKinds, Tree.expressionPositions, kind, Tree.kind]

theorem member {object object' : Tree} (told : Told object object') (field : Tree) :
  Told (.node .member [object, field]) (.node .member [object', field])
  := by
  intro e e' ht hu
  simp only [ofTree?, Fault.bind_eq_ok_iff] at ht hu
  obtain ⟨o, ho, ⟨⟩⟩ := ht
  obtain ⟨o', ho', ⟨⟩⟩ := hu
  obtain ⟨loose, left⟩ := told ho ho'
  use rfl
  rw [render, render, Tree.expressionPositions, Tree.expressionPositions, sameKinds_node_cons_iff]
  exact ((tells_operand loose left).before _).before _

theorem index {values values' position position' : Tree} (agree : values.agrees values')
    (toldValues : Told values values') (toldPosition : Told position position') :
  Told (.node .index [values, position]) (.node .index [values', position'])
  := by
  intro e e' ht hu
  simp only [ofTree?, Fault.bind_eq_ok_iff] at ht hu
  obtain ⟨v, hv, p, hp, ⟨⟩⟩ := ht
  obtain ⟨v', hv', p', hp', ⟨⟩⟩ := hu
  obtain ⟨loose, left⟩ := toldValues hv hv'
  obtain ⟨-, right⟩ := toldPosition hp hp'
  use rfl
  rw [render, render, Tree.expressionPositions, Tree.expressionPositions, sameKinds_node_cons_iff,
    sameKinds_append_iff (Tree.corresponds_expressionPositions agree)]
  exact (((tells_operand loose left).before _).append right).before _

theorem cast {value value' : Tree} (told : Told value value') (type : Tree) :
  Told (.node .cast [value, type]) (.node .cast [value', type])
  := by
  intro e e' ht hu
  simp only [ofTree?, Fault.bind_eq_ok_iff] at ht hu
  obtain ⟨v, hv, ⟨⟩⟩ := ht
  obtain ⟨v', hv', ⟨⟩⟩ := hu
  obtain ⟨-, value⟩ := told hv hv'
  use rfl
  rw [render, render, Tree.expressionPositions, Tree.expressionPositions, sameKinds_node_cons_iff]
  exact (value.before _).before _

theorem lambda {parameter parameter' body body' : Tree} (lettered : parameter.LetteredVariable)
    (agree : parameter.agrees parameter') (type : Tree) (told : Told body body') :
  Told (.node .lambda [parameter, type, body]) (.node .lambda [parameter', type, body'])
  := by
  intro e e' ht hu
  simp only [ofTree?, Fault.bind_eq_ok_iff] at ht hu
  obtain ⟨v, hv, b, hb, ⟨⟩⟩ := ht
  obtain ⟨v', hv', b', hb', ⟨⟩⟩ := hu
  obtain ⟨same, rfl⟩ := Variable.ofTree?_of_agrees lettered agree hv hv'
  obtain ⟨-, body⟩ := told hb hb'
  use rfl
  rw [render, render, Tree.expressionPositions, Tree.expressionPositions, sameKinds_node_cons_iff,
    sameKinds_tree_cons_iff same]
  exact body.after _

end Told

/-! ### Expressions with rows in them -/

namespace ToldAll

theorem nil :
  ToldAll [] []
  := by
  intro es es' ht hu
  obtain rfl := Except.ok.inj (ht.symm.trans hu)
  apply TellIn.same rfl

theorem cons {t u : Tree} {ts us : List Tree} (agree : t.agrees u) (first : Told t u)
    (rest : ToldAll ts us) :
  ToldAll (t :: ts) (u :: us)
  := by
  intro es es' ht hu
  simp only [ofTrees?, Fault.bind_eq_ok_iff] at ht hu
  obtain ⟨e, he, es, hes, ⟨⟩⟩ := ht
  obtain ⟨e', he', es', hes', ⟨⟩⟩ := hu
  obtain ⟨-, head⟩ := first he he'
  apply (TellIn.cons head (rest hes hes')).of_iff
  exact (sameKinds_append_iff (Tree.corresponds_expressionPositions agree)).symm

/-- Rows of trees that agree are told by their texts when the trees in them are. -/
theorem of_forall {ts us : List Tree} (agree : List.Forall₂ (fun t u => t.agrees u) ts us)
    (lettered : Tree.LetteredExpressions ts)
    (each : ∀ t ∈ ts, ∀ {u : Tree}, t.LetteredExpression → t.agrees u → Told t u) :
  ToldAll ts us
  := by
  induction agree with
  | nil => apply nil
  | cons first _ ih =>
      rw [List.forall_mem_cons] at each
      apply cons first (each.1 lettered.1 first) (ih lettered.2 each.2)

section

variable {ts us : List Tree} (h : ToldAll ts us)

include h

theorem call {receiver receiver' : Tree} (agree : receiver.agrees receiver')
    (told : Told receiver receiver') (method types : Tree) :
  Told (.node .call [receiver, method, .row ts, types])
    (.node .call [receiver', method, .row us, types])
  := by
  intro e e' ht hu
  simp only [ofTree?, Fault.bind_eq_ok_iff] at ht hu
  obtain ⟨r, hr, es, hes, ⟨⟩⟩ := ht
  obtain ⟨r', hr', es', hes', ⟨⟩⟩ := hu
  obtain ⟨loose, left⟩ := told hr hr'
  have right := (h hes hes').intercalate ", "
  use rfl
  rw [render, render, Tree.expressionPositions, Tree.expressionPositions, sameKinds_node_cons_iff,
    sameKinds_append_iff (Tree.corresponds_expressionPositions agree)]
  exact (((((tells_operand loose left).before _).before _).before _).before _
    |>.append right).before _

theorem staticCall (owner method types : Tree) :
  Told (.node .staticCall [owner, method, .row ts, types])
    (.node .staticCall [owner, method, .row us, types])
  := by
  intro e e' ht hu
  simp only [ofTree?, Fault.bind_eq_ok_iff] at ht hu
  obtain ⟨es, hes, ⟨⟩⟩ := ht
  obtain ⟨es', hes', ⟨⟩⟩ := hu
  use rfl
  rw [render, render, Tree.expressionPositions, Tree.expressionPositions, sameKinds_node_cons_iff]
  exact ((h hes hes').intercalate ", " |>.after _).before _

theorem superCall (method : Tree) :
  Told (.node .superCall [method, .row ts]) (.node .superCall [method, .row us])
  := by
  intro e e' ht hu
  simp only [ofTree?, Fault.bind_eq_ok_iff] at ht hu
  obtain ⟨es, hes, ⟨⟩⟩ := ht
  obtain ⟨es', hes', ⟨⟩⟩ := hu
  use rfl
  rw [render, render, Tree.expressionPositions, Tree.expressionPositions, sameKinds_node_cons_iff]
  exact ((h hes hes').intercalate ", " |>.after _).before _

theorem new (type : Tree) :
  Told (.node .new [type, .row ts]) (.node .new [type, .row us])
  := by
  intro e e' ht hu
  simp only [ofTree?, Fault.bind_eq_ok_iff] at ht hu
  obtain ⟨es, hes, ⟨⟩⟩ := ht
  obtain ⟨es', hes', ⟨⟩⟩ := hu
  use rfl
  rw [render, render, Tree.expressionPositions, Tree.expressionPositions, sameKinds_node_cons_iff]
  exact ((h hes hes').intercalate ", " |>.after _).before _

theorem list :
  Told (.node .list [.row ts]) (.node .list [.row us])
  := by
  intro e e' ht hu
  simp only [ofTree?, Fault.bind_eq_ok_iff] at ht hu
  obtain ⟨es, hes, ⟨⟩⟩ := ht
  obtain ⟨es', hes', ⟨⟩⟩ := hu
  use rfl
  rw [render, render, Tree.expressionPositions, Tree.expressionPositions, sameKinds_node_cons_iff]
  exact ((h hes hes').intercalate ", " |>.after _).before _

end

end ToldAll

/-- Expressions that agree are told by their texts. -/
theorem told {t u : Tree} (lettered : t.LetteredExpression) (agree : t.agrees u) :
  Told t u
  := by
  induction t using Tree.expressionRec generalizing u with
  | other t none =>
      intro e e' ht hu
      rw [ofTree?_of_not_isExpression none] at ht
      cases ht
  | name id =>
      obtain ⟨_, rfl, id⟩ := Tree.exists_of_agrees_unary agree
      rw [lettered.eq_of_agrees id]
      apply Told.refl
  | self =>
      obtain rfl := Tree.eq_of_agrees_nullary agree
      apply Told.refl
  | literal value =>
      obtain ⟨_, rfl, value⟩ := Tree.exists_of_agrees_unary agree
      exact Told.literal value
  | member object field ih =>
      obtain ⟨_, _, rfl, object, field⟩ := Tree.exists_of_agrees_binary agree
      rw [lettered.2.eq_of_agrees field]
      apply Told.member (ih lettered.1 object)
  | index values position ihValues ihPosition =>
      obtain ⟨_, _, rfl, values, position⟩ := Tree.exists_of_agrees_binary agree
      exact Told.index values (ihValues lettered.1 values) (ihPosition lettered.2 position)
  | call receiver method arguments types ihReceiver ihArguments =>
      obtain ⟨_, _, _, _, rfl, receiver, method, given, types⟩ :=
        Tree.exists_of_agrees_quaternary agree
      obtain ⟨_, rfl, items⟩ := Tree.agrees_row_iff.mp given
      obtain ⟨letteredReceiver, letteredMethod, letteredArguments, letteredTypes⟩ := lettered
      rw [letteredMethod.eq_of_agrees method, letteredTypes.eq_of_agrees types]
      apply (ToldAll.of_forall items letteredArguments ihArguments).call receiver
        (ihReceiver letteredReceiver receiver)
  | staticCall owner method arguments types ih =>
      obtain ⟨_, _, _, _, rfl, owner, method, given, types⟩ :=
        Tree.exists_of_agrees_quaternary agree
      obtain ⟨_, rfl, items⟩ := Tree.agrees_row_iff.mp given
      obtain ⟨letteredOwner, letteredMethod, letteredArguments, letteredTypes⟩ := lettered
      rw [letteredOwner.eq_of_agrees owner, letteredMethod.eq_of_agrees method,
        letteredTypes.eq_of_agrees types]
      apply (ToldAll.of_forall items letteredArguments ih).staticCall
  | superCall method arguments ih =>
      obtain ⟨_, _, rfl, method, given⟩ := Tree.exists_of_agrees_binary agree
      obtain ⟨_, rfl, items⟩ := Tree.agrees_row_iff.mp given
      rw [lettered.1.eq_of_agrees method]
      apply (ToldAll.of_forall items lettered.2 ih).superCall
  | new type arguments ih =>
      obtain ⟨_, _, rfl, type, given⟩ := Tree.exists_of_agrees_binary agree
      obtain ⟨_, rfl, items⟩ := Tree.agrees_row_iff.mp given
      rw [lettered.1.eq_of_agrees type]
      apply (ToldAll.of_forall items lettered.2 ih).new
  | cast value type ih =>
      obtain ⟨_, _, rfl, value, type⟩ := Tree.exists_of_agrees_binary agree
      rw [lettered.2.eq_of_agrees type]
      apply Told.cast (ih lettered.1 value)
  | list elements ih =>
      obtain ⟨_, rfl, given⟩ := Tree.exists_of_agrees_unary agree
      obtain ⟨_, rfl, items⟩ := Tree.agrees_row_iff.mp given
      exact (ToldAll.of_forall items lettered ih).list
  | lambda parameter type body ih =>
      obtain ⟨_, _, _, rfl, parameter, type, body⟩ := Tree.exists_of_agrees_ternary agree
      obtain ⟨letteredParameter, letteredType, letteredBody⟩ := lettered
      rw [letteredType.eq_of_agrees type]
      exact Told.lambda letteredParameter parameter _ (ih letteredBody body)

end Expr

end ContractBindings
