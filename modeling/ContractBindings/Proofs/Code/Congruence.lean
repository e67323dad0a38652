import ContractBindings.Proofs.Code.Told
import Mathlib.Tactic.Common

/-!
# Trees that agree rendered

Trees that agree are rendered alike, with the same text or the same fault, when at every position
that is reached they are of the same kind.  A tree that is rendered is so with the same text as
one it agrees with only then: a truth value and the number that it agrees with have texts that
part, so the whole texts do.
-/

namespace ContractBindings

open Text Position

/-! ## Statements -/

/-- Statements that agree are told by their texts. -/
theorem Stmt.tells_render {t u : Tree} (lettered : t.LetteredStatement) (agree : t.agrees u)
    {s s' : Stmt} (ht : ofTree? t = .ok s) (hu : ofTree? u = .ok s') :
  Tells (SameKinds t.statementPositions u.statementPositions) s.render s'.render
  := by
  rw [ofTree?.eq_def] at ht
  split at ht
  · obtain ⟨_, _, rfl, name, value⟩ := Tree.exists_of_agrees_binary agree
    simp only [ofTree?, Fault.bind_eq_ok_iff] at ht hu
    obtain ⟨e, he, ⟨⟩⟩ := ht
    obtain ⟨e', he', ⟨⟩⟩ := hu
    rw [lettered.1.eq_of_agrees name, render, render, Tree.statementPositions,
      Tree.statementPositions, sameKinds_node_cons_iff]
    exact ((Expr.told lettered.2 value he he').2.after _).before _
  · obtain ⟨_, _, rfl, target, value⟩ := Tree.exists_of_agrees_binary agree
    simp only [ofTree?, Fault.bind_eq_ok_iff] at ht hu
    obtain ⟨d, hd, e, he, ⟨⟩⟩ := ht
    obtain ⟨d', hd', e', he', ⟨⟩⟩ := hu
    rw [render, render, Tree.statementPositions, Tree.statementPositions, sameKinds_node_cons_iff,
      sameKinds_append_iff (Tree.corresponds_expressionPositions target)]
    exact ((Expr.told lettered.1 target hd hd').2.before _).append
      (Expr.told lettered.2 value he he').2 |>.before _
  · obtain ⟨_, rfl, value⟩ := Tree.exists_of_agrees_unary agree
    simp only [ofTree?, Fault.bind_eq_ok_iff] at ht hu
    obtain ⟨e, he, ⟨⟩⟩ := ht
    obtain ⟨e', he', ⟨⟩⟩ := hu
    rw [render, render, Tree.statementPositions, Tree.statementPositions, sameKinds_node_cons_iff]
    exact ((Expr.told lettered value he he').2.after _).before _
  · obtain ⟨_, rfl, value⟩ := Tree.exists_of_agrees_unary agree
    simp only [ofTree?, Fault.bind_eq_ok_iff] at ht hu
    obtain ⟨e, he, ⟨⟩⟩ := ht
    obtain ⟨e', he', ⟨⟩⟩ := hu
    rw [render, render, Tree.statementPositions, Tree.statementPositions, sameKinds_node_cons_iff]
    exact (Expr.told lettered value he he').2.before _
  · cases ht

/-- Statements that agree one by one are told by their lines. -/
theorem Stmt.tellIn_lines {ts us : List Tree} (agree : List.Forall₂ (fun t u => t.agrees u) ts us)
    (lettered : ∀ t ∈ ts, t.LetteredStatement) {body body' : List Stmt}
    (ht : ts.mapM ofTree? = .ok body) (hu : us.mapM ofTree? = .ok body') (before : String) :
  TellIn
    (SameKinds (ts.flatMap Tree.statementPositions) (us.flatMap Tree.statementPositions))
    (body.map fun s => before ++ s.render) (body'.map fun s => before ++ s.render)
  := by
  induction agree generalizing body body' with
  | nil =>
      obtain rfl := Except.ok.inj (ht.symm.trans hu)
      apply TellIn.same rfl
  | cons first _ ih =>
      rw [List.forall_mem_cons] at lettered
      simp only [List.mapM_cons, Fault.bind_eq_ok_iff] at ht hu
      obtain ⟨s, hs, ss, hss, ⟨⟩⟩ := ht
      obtain ⟨s', hs', ss', hss', ⟨⟩⟩ := hu
      have head := (tells_render lettered.1 first hs hs').after before
      apply (TellIn.cons head (ih lettered.2 hss hss')).of_iff
      exact (sameKinds_append_iff (Tree.corresponds_statementPositions first)).symm

/-! ## Methods and classes -/

/-- Variables that agree one by one are of the same kinds and read as the same ones. -/
theorem Variable.mapM_ofTree?_of_agrees {ts us : List Tree}
    (agree : List.Forall₂ (fun t u => t.agrees u) ts us)
    (lettered : ∀ t ∈ ts, t.LetteredVariable) {vs vs' : List Variable}
    (ht : ts.mapM ofTree? = .ok vs) (hu : us.mapM ofTree? = .ok vs') :
  SameKinds (ts.map (⟨.variable, ·⟩)) (us.map (⟨.variable, ·⟩)) ∧ vs = vs'
  := by
  induction agree generalizing vs vs' with
  | nil => exact ⟨rfl, Except.ok.inj (ht.symm.trans hu)⟩
  | cons first _ ih =>
      rw [List.forall_mem_cons] at lettered
      simp only [List.mapM_cons, Fault.bind_eq_ok_iff] at ht hu
      obtain ⟨v, hv, vs, hvs, ⟨⟩⟩ := ht
      obtain ⟨v', hv', vs', hvs', ⟨⟩⟩ := hu
      obtain ⟨same, rfl⟩ := ofTree?_of_agrees lettered.1 first hv hv'
      obtain ⟨rest, rfl⟩ := ih lettered.2 hvs hvs'
      exact ⟨(sameKinds_tree_cons_iff same).mpr rest, rfl⟩

/-- Methods that agree are told by their lines. -/
theorem Method.tellIn_renderLines {t u : Tree} (lettered : t.LetteredMethod) (agree : t.agrees u)
    {m m' : Method} (ht : ofTree? t = .ok m) (hu : ofTree? u = .ok m') (indent : String) :
  TellIn (SameKinds t.methodPositions u.methodPositions)
    (m.renderLines indent) (m'.renderLines indent)
  := by
  rw [ofTree?.eq_def] at ht
  split at ht
  · obtain ⟨_, _, _, _, _, rfl, name, parameters, type, body, kind⟩ :=
      Tree.exists_of_agrees_quinary agree
    obtain ⟨_, rfl, declared⟩ := Tree.agrees_row_iff.mp parameters
    obtain ⟨_, rfl, statements⟩ := Tree.agrees_row_iff.mp body
    obtain ⟨letteredName, letteredParameters, letteredType, letteredBody, letteredKind⟩ := lettered
    rw [letteredName.eq_of_agrees name, letteredType.eq_of_agrees type,
      letteredKind.eq_of_agrees kind] at hu ⊢
    simp only [ofTree?, Fault.bind_eq_ok_iff] at ht hu
    obtain ⟨vs, hvs, ss, hss, ⟨⟩⟩ := ht
    obtain ⟨vs', hvs', ss', hss', ⟨⟩⟩ := hu
    obtain ⟨same, rfl⟩ := Variable.mapM_ofTree?_of_agrees declared letteredParameters hvs hvs'
    have lines := Stmt.tellIn_lines statements letteredBody hss hss' (indentation indent 2)
    rw [Tree.methodPositions, Tree.methodPositions, sameKinds_node_cons_iff,
      sameKinds_append_iff (corresponds_variables declared), and_iff_right same]
    rw [renderLines, renderLines]
    -- the methods differ in their bodies only, so that what stands before these is the same
    exact (lines.after [_]).before _
  · cases ht

/-- Methods that agree one by one are told by the lines that they have in a class. -/
theorem ClassDef.tellIn_methodLines {ts us : List Tree}
    (agree : List.Forall₂ (fun t u => t.agrees u) ts us)
    (lettered : ∀ t ∈ ts, t.LetteredMethod) {ms ms' : List Method}
    (ht : ts.mapM Method.ofTree? = .ok ms) (hu : us.mapM Method.ofTree? = .ok ms')
    (indent : String) (after : Bool) :
  TellIn
    (SameKinds (ts.flatMap Tree.methodPositions) (us.flatMap Tree.methodPositions))
    (methodLines indent after ms) (methodLines indent after ms')
  := by
  induction agree generalizing ms ms' after with
  | nil =>
      obtain rfl := Except.ok.inj (ht.symm.trans hu)
      apply TellIn.same rfl
  | cons first _ ih =>
      rw [List.forall_mem_cons] at lettered
      simp only [List.mapM_cons, Fault.bind_eq_ok_iff] at ht hu
      obtain ⟨m, hm, ms, hms, ⟨⟩⟩ := ht
      obtain ⟨m', hm', ms', hms', ⟨⟩⟩ := hu
      have head := Method.tellIn_renderLines lettered.1 first hm hm' indent
      apply ((head.after _).append (ih lettered.2 hms hms' true)).of_iff
      exact (sameKinds_append_iff (Tree.corresponds_methodPositions first)).symm

/-- Classes that agree are told by their texts. -/
theorem ClassDef.tells_render {t u : Tree} (lettered : t.LetteredClassDef) (agree : t.agrees u)
    {c c' : ClassDef} (ht : ofTree? t = .ok c) (hu : ofTree? u = .ok c') (indent : String) :
  Tells (SameKinds t.classPositions u.classPositions) (c.render indent) (c'.render indent)
  := by
  rw [ofTree?.eq_def] at ht
  split at ht
  · obtain ⟨_, _, _, _, _, rfl, name, exported, base, fields, methods⟩ :=
      Tree.exists_of_agrees_quinary agree
    obtain ⟨_, rfl, declared⟩ := Tree.agrees_row_iff.mp fields
    obtain ⟨_, rfl, members⟩ := Tree.agrees_row_iff.mp methods
    obtain ⟨letteredName, letteredBase, letteredFields, letteredMethods⟩ := lettered
    rw [letteredName.eq_of_agrees name, letteredBase.eq_of_agrees base] at hu ⊢
    simp only [ofTree?, Fault.bind_eq_ok_iff] at ht hu
    obtain ⟨vs, hvs, ms, hms, ⟨⟩⟩ := ht
    obtain ⟨vs', hvs', ms', hms', ⟨⟩⟩ := hu
    obtain ⟨same, rfl⟩ := Variable.mapM_ofTree?_of_agrees declared letteredFields hvs hvs'
    have lines := tellIn_methodLines members letteredMethods hms hms' indent (!vs.isEmpty)
    rw [Tree.classPositions, Tree.classPositions, sameKinds_node_cons_iff,
      sameKinds_append_iff (corresponds_variables declared), and_iff_right same,
      Tree.holds_eq_of_agrees exported, render, render]
    -- the classes differ in their methods only
    exact ((lines.after (_ :: _)).before _).intercalate "\n"
  · cases ht

/-! ## Any code -/

namespace Tree

/-- The positions of a tree where something is expected. -/
def positions (t : Tree) : Expected → List Position
  | .expression => t.expressionPositions
  | .statement => t.statementPositions
  | .method => t.methodPositions
  | .classDef => t.classPositions
  | .literalValue => [⟨.literalValue, t⟩]
  | .variable => [⟨.variable, t⟩]
  | .importDef => [⟨.importDef, t⟩]

/-- All names and types in a tree are texts, as far as it is what is expected. -/
def Lettered (t : Tree) : Expected → Prop
  | .expression => t.LetteredExpression
  | .statement => t.LetteredStatement
  | .literalValue => True
  | .variable => t.LetteredVariable
  | .method => t.LetteredMethod
  | .classDef => t.LetteredClassDef
  | .importDef => t.LetteredImportDef

variable {t u : Tree}

/-- A tree is rendered with the fault of its first position that is not in place. -/
theorem of?_render? (indent : String) (t : Tree) (expected : Expected) :
  Fault.of? (t.render? indent expected) = (t.positions expected).findSome? Position.fault?
  := by
  cases expected <;> rw [render?, Fault.of?_bind_pure]
  case expression => apply Expr.of?_ofTree?
  case statement => apply Stmt.of?_ofTree?
  case method => apply Method.of?_ofTree?
  case classDef => apply ClassDef.of?_ofTree?
  case literalValue => apply Literal.of?_ofTree?
  case «variable» => apply Variable.of?_ofTree?
  case importDef => apply Import.of?_ofTree?

theorem corresponds_positions (agree : t.agrees u) (expected : Expected) :
  List.Forall₂ Corresponds (t.positions expected) (u.positions expected)
  := by
  cases expected with
  | expression => apply corresponds_expressionPositions agree
  | statement => apply corresponds_statementPositions agree
  | method => apply corresponds_methodPositions agree
  | classDef => apply corresponds_classPositions agree
  | literalValue => apply corresponds_singleton _ agree
  | «variable» => apply corresponds_singleton _ agree
  | importDef => apply corresponds_singleton _ agree

/-- Trees that agree and are rendered are told by their texts. -/
theorem tellIn_render? {expected : Expected} (lettered : t.Lettered expected)
    (agree : t.agrees u) {indent : String} {lines lines' : List String}
    (ht : t.render? indent expected = .ok lines) (hu : u.render? indent expected = .ok lines') :
  TellIn (SameKinds (t.positions expected) (u.positions expected)) lines lines'
  := by
  have single {fact : Prop} {x y : String} (h : Tells fact x y) : TellIn fact [x] [y] :=
    (TellIn.cons h (.same trivial [])).of_iff (Iff.of_eq (and_true fact))
  cases expected <;> rw [render?, Fault.bind_eq_ok_iff] at ht hu <;>
    obtain ⟨c, hc, ⟨⟩⟩ := ht <;> obtain ⟨c', hc', ⟨⟩⟩ := hu
  case expression => apply single (Expr.told lettered agree hc hc').2
  case statement => apply single (Stmt.tells_render lettered agree hc hc')
  case method => apply Method.tellIn_renderLines lettered agree hc hc'
  case classDef => apply single (ClassDef.tells_render lettered agree hc hc' indent)
  case literalValue =>
    apply single ((Literal.tells_render agree hc hc').of_iff _)
    simp [SameKinds, positions, Position.kind]
  case «variable» =>
    obtain ⟨same, rfl⟩ := Variable.ofTree?_of_agrees lettered agree hc hc'
    apply TellIn.same ((sameKinds_tree_cons_iff same).mpr rfl)
  case importDef =>
    obtain ⟨same, rfl⟩ := Import.ofTree?_of_agrees lettered agree hc hc'
    apply TellIn.same ((sameKinds_tree_cons_iff same).mpr rfl)

end Tree

/-! ## Positions that are reached -/

namespace Position

/-- The positions up to the first one that is not in place, with this one. -/
def reached (ps : List Position) : List Position :=
  Fault.reached fault? ps

/-- Positions that are of the same kinds are so as far as they are reached. -/
theorem sameKinds_reached {ps qs : List Position} (h : List.Forall₂ Corresponds ps qs)
    (kinds : SameKinds ps qs) :
  SameKinds (reached ps) (reached qs)
  := by
  induction h with
  | nil => rfl
  | cons first _ ih =>
      obtain ⟨kind, kinds⟩ := List.cons.inj kinds
      rw [reached, reached, Fault.reached, Fault.reached, first.fault?_eq kind,
        sameKinds_cons_iff kind]
      split
      · apply ih kinds
      · rfl

/-- Positions that correspond have the same first fault if the trees at those that are reached
are of the same kinds. -/
theorem findSome?_fault?_eq {ps qs : List Position} (h : List.Forall₂ Corresponds ps qs)
    (kinds : SameKinds (reached ps) (reached qs)) :
  ps.findSome? fault? = qs.findSome? fault?
  := by
  induction h with
  | nil => rfl
  | cons first _ ih =>
      obtain ⟨kind, kinds⟩ := List.cons.inj kinds
      have same := first.fault?_eq kind
      rw [same] at kinds
      rw [List.findSome?_cons, List.findSome?_cons, same]
      split
      · rfl
      · next inPlace =>
        rw [if_pos inPlace, if_pos inPlace] at kinds
        apply ih kinds

end Position

namespace Tree

variable {t u : Tree}

/-- Trees that agree are rendered alike if they are of the same kinds at all positions that are
reached, and a tree that is rendered shares its text only with those trees it agrees with that
are of the same kinds at all positions. -/
theorem render?_of_agrees {expected : Expected} (lettered : t.Lettered expected)
    (agree : t.agrees u) (indent : String) :
  (SameKinds (reached (t.positions expected)) (reached (u.positions expected)) →
      t.render? indent expected = u.render? indent expected)
    ∧ ∀ lines, t.render? indent expected = .ok lines →
      (u.render? indent expected = .ok lines
        ↔ SameKinds (t.positions expected) (u.positions expected))
  := by
  have corresponds := corresponds_positions agree expected
  have alike (kinds : SameKinds (reached (t.positions expected)) (reached (u.positions expected))) :
      t.render? indent expected = u.render? indent expected := by
    have faults := findSome?_fault?_eq corresponds kinds
    rw [← of?_render? indent, ← of?_render? indent] at faults
    cases ht : t.render? indent expected with
    | error fault =>
        rw [ht] at faults
        exact ((Fault.of?_eq_some_iff _ _).mp faults.symm).symm
    | ok lines =>
        rw [ht] at faults
        obtain ⟨lines', hu⟩ := (Fault.of?_eq_none_iff _).mp faults.symm
        have inPlace : Fault.of? (t.render? indent expected) = none := by rw [ht]; rfl
        have inPlace' : Fault.of? (u.render? indent expected) = none := by rw [hu]; rfl
        rw [of?_render?] at inPlace inPlace'
        rw [reached, reached, Fault.reached_eq_self inPlace,
          Fault.reached_eq_self inPlace'] at kinds
        rw [hu, (tellIn_render? lettered agree ht hu).eq_iff.mpr kinds]
  use alike
  intro lines ht
  constructor
  · intro hu
    apply (tellIn_render? lettered agree ht hu).eq_iff.mp rfl
  · intro kinds
    rw [← alike (sameKinds_reached corresponds kinds), ht]

/-- A statement that returns a flag with the given value. -/
def flagReturn (value : Tree) : Tree :=
  .node .give [.node .staticCall
    [.text "Flag", .text "of", .row [.node .literal [value]], .row [.text "bool"]]]

theorem render?_of_agrees_flagReturn :
  (flagReturn (.truth true)).Lettered .statement
    ∧ (flagReturn (.truth true)).agrees (flagReturn (.number (.whole 1)))
    ∧ (flagReturn (.truth true)).render? "  " .statement = .ok ["return Flag.of<bool>(true);"]
    ∧ (flagReturn (.number (.whole 1))).render? "  " .statement
      ≠ .ok ["return Flag.of<bool>(true);"]
  := by
  have lettered : (flagReturn (.truth true)).Lettered .statement :=
    ⟨⟨_, rfl⟩, ⟨_, rfl⟩, ⟨trivial, trivial⟩, ["bool"], rfl⟩
  have agree : (flagReturn (.truth true)).agrees (flagReturn (.number (.whole 1))) := by decide
  have here : (flagReturn (.truth true)).render? "  " .statement
      = .ok ["return Flag.of<bool>(true);"] := by rfl
  use lettered, agree, here
  intro there
  have kinds := ((render?_of_agrees lettered agree "  ").2 _ here).mp there
  revert kinds
  simp [SameKinds, positions, flagReturn, statementPositions, expressionPositions, positionsAll,
    Position.kind, kind]

/-- Trees that agree are not always rendered alike. -/
theorem not_render?_eq_of_agrees :
  ¬ ∀ (t u : Tree) (expected : Expected) (indent : String), t.Lettered expected → t.agrees u →
    t.render? indent expected = u.render? indent expected
  := by
  intro alike
  have same : Except.ok ["true"] = Except.ok ["1"] :=
    alike (.node .literal [.truth true]) (.node .literal [.number (.whole 1)])
      .expression "" trivial rfl
  apply absurd (Except.ok.inj same)
  decide

end Tree

end ContractBindings
