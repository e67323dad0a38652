import ContractBindings.Proofs.Code.Position
import Mathlib.Data.List.Forall2

/-!
# Trees that agree

Trees that agree have the same nodes, rows and texts, so that they are of the same kind at their
roots but for numbers and truth values.  Their positions correspond: at each of them the same is
expected of trees that agree.
-/

namespace ContractBindings

/-! ## Numbers of one value -/

theorem power_pos {base : Nat} (h : 0 < base) (exponent : Int) :
  0 < power base exponent
  := Nat.pow_pos h

namespace Double

/-- A double is zero when its magnitude is. -/
theorem isZero_iff (x : Double) :
  x.isZero ↔ x.magnitude.mantissa = 0
  := by
  rw [isZero, magnitude, decide_eq_true_iff]
  split
  · next stored => simp [stored]
  · next stored => simp [stored]

/-- A double that is a whole number is zero when that is. -/
theorem isZero_eq_of_isInt {x : Double} {n : Int} (h : x.isInt n) :
  x.isZero = (n == 0)
  := by
  rw [isInt, Bool.and_eq_true, beq_iff_eq] at h
  have value := h.2
  rw [Bool.eq_iff_iff, isZero_iff, beq_iff_eq]
  have hx := power_pos Nat.two_pos x.magnitude.exponent
  have hn := power_pos Nat.two_pos (-x.magnitude.exponent)
  constructor
  · intro zero
    rw [zero, Nat.zero_mul, eq_comm, Nat.mul_eq_zero] at value
    omega
  · rintro rfl
    rw [Int.natAbs_zero, Nat.zero_mul, Nat.mul_eq_zero] at value
    omega

end Double

namespace Number

theorem same_comm (m n : Number) :
  m.same n = n.same m
  := by
  cases m <;> cases n <;> simp only [same, Double.same, Bool.beq_comm, Bool.and_comm]

/-- Numbers of one value are zero together. -/
theorem isZero_eq_of_same {m n : Number} (h : m.same n) :
  m.isZero = n.isZero
  := by
  cases m with
  | whole m =>
      cases n with
      | whole n =>
          rw [same, beq_iff_eq] at h
          rw [h]
      | decimal y => apply (Double.isZero_eq_of_isInt h).symm
  | decimal x =>
      cases n with
      | whole n => apply Double.isZero_eq_of_isInt h
      | decimal y =>
          rw [same, Double.same, Bool.or_eq_true, Bool.and_eq_true, beq_iff_eq] at h
          obtain rfl | ⟨zero, zero'⟩ := h
          · rfl
          · rw [isZero, isZero, zero, zero']

end Number

namespace Tree

/-! ## Agreement by the form of a tree -/

variable {t u : Tree} {ts us : List Tree}

section

attribute [local simp] agrees agreesAll

theorem agrees_null_iff :
  null.agrees u ↔ u = null
  := by
  cases u <;> simp

theorem agrees_text_iff {value : String} :
  (text value).agrees u ↔ u = text value
  := by
  cases u with
  | text other =>
      simp only [agrees, beq_iff_eq, text.injEq]
      exact eq_comm
  | _ => simp

theorem agreesAll_iff :
  agreesAll ts us ↔ List.Forall₂ (fun t u => t.agrees u) ts us
  := by
  induction ts generalizing us with
  | nil => cases us <;> simp
  | cons t ts ih => cases us <;> simp [ih]

theorem agrees_row_iff :
  (row ts).agrees u ↔ ∃ us, u = row us ∧ List.Forall₂ (fun t u => t.agrees u) ts us
  := by
  cases u <;> simp [agreesAll_iff]

theorem agrees_node_iff {kind : NodeKind} :
  (node kind ts).agrees u
    ↔ ∃ us, u = node kind us ∧ List.Forall₂ (fun t u => t.agrees u) ts us
  := by
  cases u with
  | node other us =>
      simp only [agrees, Bool.and_eq_true, beq_iff_eq, node.injEq, agreesAll_iff]
      constructor
      · rintro ⟨rfl, items⟩
        use us
      · rintro ⟨_, ⟨rfl, rfl⟩, items⟩
        use rfl
  | _ => simp

/-- Agreement does not depend on the order. -/
theorem agrees_symm (h : t.agrees u) :
  u.agrees t
  := by
  induction t using Tree.rec (motive_2 := fun ts => ∀ us,
    List.Forall₂ (fun t u => t.agrees u) ts us → List.Forall₂ (fun t u => t.agrees u) us ts)
    generalizing u with
  | null =>
      obtain rfl := agrees_null_iff.mp h
      rfl
  | truth value => cases u <;> simp_all [Number.same_comm]
  | number value => cases u <;> simp_all [Number.same_comm]
  | text value =>
      obtain rfl := agrees_text_iff.mp h
      simp
  | row items ih =>
      obtain ⟨us, rfl, parts⟩ := agrees_row_iff.mp h
      apply agrees_row_iff.mpr ⟨_, rfl, ih us parts⟩
  | node kind parts ih =>
      obtain ⟨us, rfl, parts⟩ := agrees_node_iff.mp h
      apply agrees_node_iff.mpr ⟨_, rfl, ih us parts⟩
  | nil =>
      next _ parts =>
      cases parts
      apply List.Forall₂.nil
  | cons t ts head tail =>
      next _ parts =>
      cases parts with
      | cons first rest => exact List.forall₂_cons.mpr ⟨head first, tail _ rest⟩

end

/-- Trees that agree count as given and true together. -/
theorem holds_eq_of_agrees (agree : t.agrees u) :
  t.holds = u.holds
  := by
  cases t with
  | null => rw [agrees_null_iff.mp agree]
  | truth value =>
      cases u with
      | truth other =>
          rw [agrees, beq_iff_eq] at agree
          rw [agree]
      | number n =>
          rw [holds, holds, ← Number.isZero_eq_of_same agree]
          cases value <;> rfl
      | _ => cases agree
  | number m =>
      cases u with
      | truth value =>
          rw [holds, holds, Number.isZero_eq_of_same agree]
          cases value <;> rfl
      | number n => rw [holds, holds, Number.isZero_eq_of_same agree]
      | _ => cases agree
  | text value => rw [agrees_text_iff.mp agree]
  | row items =>
      obtain ⟨us, rfl, items⟩ := agrees_row_iff.mp agree
      cases items <;> rfl
  | node kind parts =>
      obtain ⟨us, rfl, -⟩ := agrees_node_iff.mp agree
      rfl

/-! ## Nodes by the number of their parts -/

section

variable {kind : NodeKind} {t₁ t₂ t₃ t₄ t₅ : Tree}

theorem eq_of_agrees_nullary (agree : (node kind []).agrees u) :
  u = node kind []
  := by
  obtain ⟨_, rfl, _ | _⟩ := agrees_node_iff.mp agree
  rfl

theorem exists_of_agrees_unary (agree : (node kind [t₁]).agrees u) :
  ∃ u₁, u = node kind [u₁] ∧ t₁.agrees u₁
  := by
  obtain ⟨_, rfl, _ | ⟨first, _ | _⟩⟩ := agrees_node_iff.mp agree
  exact ⟨_, rfl, first⟩

theorem exists_of_agrees_binary (agree : (node kind [t₁, t₂]).agrees u) :
  ∃ u₁ u₂, u = node kind [u₁, u₂] ∧ t₁.agrees u₁ ∧ t₂.agrees u₂
  := by
  obtain ⟨_, rfl, _ | ⟨first, _ | ⟨second, _ | _⟩⟩⟩ := agrees_node_iff.mp agree
  exact ⟨_, _, rfl, first, second⟩

theorem exists_of_agrees_ternary (agree : (node kind [t₁, t₂, t₃]).agrees u) :
  ∃ u₁ u₂ u₃, u = node kind [u₁, u₂, u₃] ∧ t₁.agrees u₁ ∧ t₂.agrees u₂ ∧ t₃.agrees u₃
  := by
  obtain ⟨_, rfl, _ | ⟨first, _ | ⟨second, _ | ⟨third, _ | _⟩⟩⟩⟩ := agrees_node_iff.mp agree
  exact ⟨_, _, _, rfl, first, second, third⟩

theorem exists_of_agrees_quaternary (agree : (node kind [t₁, t₂, t₃, t₄]).agrees u) :
  ∃ u₁ u₂ u₃ u₄, u = node kind [u₁, u₂, u₃, u₄]
    ∧ t₁.agrees u₁ ∧ t₂.agrees u₂ ∧ t₃.agrees u₃ ∧ t₄.agrees u₄
  := by
  obtain ⟨_, rfl, _ | ⟨first, _ | ⟨second, _ | ⟨third, _ | ⟨fourth, _ | _⟩⟩⟩⟩⟩ :=
    agrees_node_iff.mp agree
  exact ⟨_, _, _, _, rfl, first, second, third, fourth⟩

theorem exists_of_agrees_quinary (agree : (node kind [t₁, t₂, t₃, t₄, t₅]).agrees u) :
  ∃ u₁ u₂ u₃ u₄ u₅, u = node kind [u₁, u₂, u₃, u₄, u₅]
    ∧ t₁.agrees u₁ ∧ t₂.agrees u₂ ∧ t₃.agrees u₃ ∧ t₄.agrees u₄ ∧ t₅.agrees u₅
  := by
  obtain ⟨_, rfl, _ | ⟨first, _ | ⟨second, _ | ⟨third, _ | ⟨fourth, _ | ⟨fifth, _ | _⟩⟩⟩⟩⟩⟩ :=
    agrees_node_iff.mp agree
  exact ⟨_, _, _, _, _, rfl, first, second, third, fourth, fifth⟩

end

/-! ## Trees that fit -/

theorem isExpression_of_agrees (agree : t.agrees u) (h : t.isExpression) :
  u.isExpression
  := by
  rw [isExpression.eq_def] at h
  split at h
  · obtain ⟨_, rfl, -⟩ := exists_of_agrees_unary agree
    rfl
  · obtain rfl := eq_of_agrees_nullary agree
    rfl
  · obtain ⟨_, rfl, -⟩ := exists_of_agrees_unary agree
    rfl
  · obtain ⟨_, _, rfl, -⟩ := exists_of_agrees_binary agree
    rfl
  · obtain ⟨_, _, rfl, -⟩ := exists_of_agrees_binary agree
    rfl
  · obtain ⟨_, _, _, _, rfl, -, -, arguments, -⟩ := exists_of_agrees_quaternary agree
    obtain ⟨_, rfl, -⟩ := agrees_row_iff.mp arguments
    rfl
  · obtain ⟨_, _, _, _, rfl, -, -, arguments, -⟩ := exists_of_agrees_quaternary agree
    obtain ⟨_, rfl, -⟩ := agrees_row_iff.mp arguments
    rfl
  · obtain ⟨_, _, rfl, -, arguments⟩ := exists_of_agrees_binary agree
    obtain ⟨_, rfl, -⟩ := agrees_row_iff.mp arguments
    rfl
  · obtain ⟨_, _, rfl, -, arguments⟩ := exists_of_agrees_binary agree
    obtain ⟨_, rfl, -⟩ := agrees_row_iff.mp arguments
    rfl
  · obtain ⟨_, _, rfl, -⟩ := exists_of_agrees_binary agree
    rfl
  · obtain ⟨_, rfl, elements⟩ := exists_of_agrees_unary agree
    obtain ⟨_, rfl, -⟩ := agrees_row_iff.mp elements
    rfl
  · obtain ⟨_, _, _, rfl, -⟩ := exists_of_agrees_ternary agree
    rfl
  · cases h

theorem isStatement_of_agrees (agree : t.agrees u) (h : t.isStatement) :
  u.isStatement
  := by
  rw [isStatement.eq_def] at h
  split at h
  · obtain ⟨_, _, rfl, -⟩ := exists_of_agrees_binary agree
    rfl
  · obtain ⟨_, _, rfl, -⟩ := exists_of_agrees_binary agree
    rfl
  · obtain ⟨_, rfl, -⟩ := exists_of_agrees_unary agree
    rfl
  · obtain ⟨_, rfl, -⟩ := exists_of_agrees_unary agree
    rfl
  · cases h

theorem isVariable_of_agrees (agree : t.agrees u) (h : t.isVariable) :
  u.isVariable
  := by
  rw [isVariable.eq_def] at h
  split at h
  · obtain ⟨_, _, rfl, -⟩ := exists_of_agrees_binary agree
    rfl
  · obtain ⟨_, _, rfl, -⟩ := exists_of_agrees_binary agree
    rfl
  · cases h

theorem isMethod_of_agrees (agree : t.agrees u) (h : t.isMethod) :
  u.isMethod
  := by
  rw [isMethod.eq_def] at h
  split at h
  · obtain ⟨_, _, _, _, _, rfl, -, parameters, -, body, -⟩ := exists_of_agrees_quinary agree
    obtain ⟨_, rfl, -⟩ := agrees_row_iff.mp parameters
    obtain ⟨_, rfl, -⟩ := agrees_row_iff.mp body
    rfl
  · cases h

theorem isClassDef_of_agrees (agree : t.agrees u) (h : t.isClassDef) :
  u.isClassDef
  := by
  rw [isClassDef.eq_def] at h
  split at h
  · obtain ⟨_, _, _, _, _, rfl, -, -, -, fields, methods⟩ := exists_of_agrees_quinary agree
    obtain ⟨_, rfl, -⟩ := agrees_row_iff.mp fields
    obtain ⟨_, rfl, -⟩ := agrees_row_iff.mp methods
    rfl
  · cases h

theorem isImportDef_of_agrees (agree : t.agrees u) (h : t.isImportDef) :
  u.isImportDef
  := by
  rw [isImportDef.eq_def] at h
  split at h
  · obtain ⟨_, _, rfl, -⟩ := exists_of_agrees_binary agree
    rfl
  · cases h

/-- Values of literals are told by their kinds. -/
theorem isLiteralValue_iff (t : Tree) :
  t.isLiteralValue ↔ t.kind = .text ∨ t.kind = .whole ∨ t.kind = .truth
  := by
  cases t with
  | number value => cases value <;> simp [isLiteralValue, kind]
  | _ => simp [isLiteralValue, kind]

theorem fits_of_agrees (agree : t.agrees u) (kind : t.kind = u.kind) {expected : Expected}
    (h : t.fits expected) :
  u.fits expected
  := by
  cases expected with
  | expression => apply isExpression_of_agrees agree h
  | statement => apply isStatement_of_agrees agree h
  | literalValue =>
      rw [fits, isLiteralValue_iff] at h ⊢
      rw [← kind]
      apply h
  | «variable» => apply isVariable_of_agrees agree h
  | method => apply isMethod_of_agrees agree h
  | classDef => apply isClassDef_of_agrees agree h
  | importDef => apply isImportDef_of_agrees agree h

/-- Trees that agree and are of one kind fit where the other does. -/
theorem fits_eq_of_agrees (agree : t.agrees u) (kind : t.kind = u.kind) (expected : Expected) :
  t.fits expected = u.fits expected
  := by
  rw [Bool.eq_iff_iff]
  exact ⟨fits_of_agrees agree kind, fits_of_agrees (agrees_symm agree) kind.symm⟩

/-- What holds of all trees that agree with one for which it holds does so of both or neither. -/
theorem eq_of_agrees {p : Tree → Bool} (closed : ∀ {t u : Tree}, t.agrees u → p t → p u)
    (agree : t.agrees u) :
  p t = p u
  := by
  rw [Bool.eq_iff_iff]
  exact ⟨closed agree, closed (agrees_symm agree)⟩

end Tree

/-! ## Positions that correspond -/

namespace Position

/-- Positions where the same is expected of trees that agree. -/
structure Corresponds (p q : Position) : Prop where
  expected : p.expected = q.expected
  agree : p.found.agrees q.found

/-- What the tree at a position is at its root. -/
def kind (p : Position) : TreeKind :=
  p.found.kind

/-- Positions that correspond have the same fault if the trees there are of the same kind. -/
theorem Corresponds.fault?_eq {p q : Position} (h : Corresponds p q) (kind : p.kind = q.kind) :
  p.fault? = q.fault?
  := by
  rw [Position.kind, Position.kind] at kind
  rw [fault?, fault?, h.expected, Tree.fits_eq_of_agrees h.agree kind, kind]

/-- The position of a tree alone corresponds to that of a tree that it agrees with. -/
theorem corresponds_singleton (expected : Expected) {t u : Tree} (agree : t.agrees u) :
  List.Forall₂ Corresponds [⟨expected, t⟩] [⟨expected, u⟩]
  := .cons ⟨rfl, agree⟩ .nil

end Position

open Position

/-- The positions of expressions in a row correspond when those of each of them do. -/
theorem Tree.corresponds_positionsAll {ts us : List Tree}
    (agree : List.Forall₂ (fun t u => t.agrees u) ts us)
    (each : ∀ t ∈ ts, ∀ {u : Tree}, t.agrees u →
      List.Forall₂ Corresponds t.expressionPositions u.expressionPositions) :
  List.Forall₂ Corresponds (Tree.positionsAll ts) (Tree.positionsAll us)
  := by
  induction agree with
  | nil => apply List.Forall₂.nil
  | cons first _ ih =>
      rw [List.forall_mem_cons] at each
      apply List.rel_append (each.1 first) (ih each.2)

/-- The positions of expressions that agree correspond. -/
theorem Tree.corresponds_expressionPositions {t u : Tree} (agree : t.agrees u) :
  List.Forall₂ Corresponds t.expressionPositions u.expressionPositions
  := by
  induction t using Tree.expressionRec generalizing u with
  | other t none =>
      have none' : u.isExpression = false := eq_of_agrees isExpression_of_agrees agree ▸ none
      rw [expressionPositions_of_not_isExpression none,
        expressionPositions_of_not_isExpression none']
      apply corresponds_singleton _ agree
  | name id =>
      obtain ⟨_, rfl, -⟩ := exists_of_agrees_unary agree
      apply corresponds_singleton _ agree
  | self =>
      obtain rfl := eq_of_agrees_nullary agree
      apply corresponds_singleton _ agree
  | literal value =>
      obtain ⟨_, rfl, value⟩ := exists_of_agrees_unary agree
      exact .cons ⟨rfl, agree⟩ (corresponds_singleton _ value)
  | member object field ih =>
      obtain ⟨_, _, rfl, object, -⟩ := exists_of_agrees_binary agree
      exact .cons ⟨rfl, agree⟩ (ih object)
  | index values position ihValues ihPosition =>
      obtain ⟨_, _, rfl, values, position⟩ := exists_of_agrees_binary agree
      exact .cons ⟨rfl, agree⟩ (List.rel_append (ihValues values) (ihPosition position))
  | call receiver method arguments types ihReceiver ihArguments =>
      obtain ⟨_, _, _, _, rfl, receiver, -, given, -⟩ := exists_of_agrees_quaternary agree
      obtain ⟨_, rfl, items⟩ := agrees_row_iff.mp given
      exact .cons ⟨rfl, agree⟩
        (List.rel_append (ihReceiver receiver) (corresponds_positionsAll items ihArguments))
  | staticCall owner method arguments types ih =>
      obtain ⟨_, _, _, _, rfl, -, -, given, -⟩ := exists_of_agrees_quaternary agree
      obtain ⟨_, rfl, items⟩ := agrees_row_iff.mp given
      exact .cons ⟨rfl, agree⟩ (corresponds_positionsAll items ih)
  | superCall method arguments ih =>
      obtain ⟨_, _, rfl, -, given⟩ := exists_of_agrees_binary agree
      obtain ⟨_, rfl, items⟩ := agrees_row_iff.mp given
      exact .cons ⟨rfl, agree⟩ (corresponds_positionsAll items ih)
  | new type arguments ih =>
      obtain ⟨_, _, rfl, -, given⟩ := exists_of_agrees_binary agree
      obtain ⟨_, rfl, items⟩ := agrees_row_iff.mp given
      exact .cons ⟨rfl, agree⟩ (corresponds_positionsAll items ih)
  | cast value type ih =>
      obtain ⟨_, _, rfl, value, -⟩ := exists_of_agrees_binary agree
      exact .cons ⟨rfl, agree⟩ (ih value)
  | list elements ih =>
      obtain ⟨_, rfl, given⟩ := exists_of_agrees_unary agree
      obtain ⟨_, rfl, items⟩ := agrees_row_iff.mp given
      exact .cons ⟨rfl, agree⟩ (corresponds_positionsAll items ih)
  | lambda parameter type body ih =>
      obtain ⟨_, _, _, rfl, parameter, -, body⟩ := exists_of_agrees_ternary agree
      exact .cons ⟨rfl, agree⟩ (.cons ⟨rfl, parameter⟩ (ih body))

/-- The positions of statements that agree correspond. -/
theorem Tree.corresponds_statementPositions {t u : Tree} (agree : t.agrees u) :
  List.Forall₂ Corresponds t.statementPositions u.statementPositions
  := by
  cases h : t.isStatement with
  | false =>
      have none : u.isStatement = false := eq_of_agrees isStatement_of_agrees agree ▸ h
      rw [statementPositions_of_not_isStatement h, statementPositions_of_not_isStatement none]
      apply corresponds_singleton _ agree
  | true =>
      rw [isStatement.eq_def] at h
      split at h
      · obtain ⟨_, _, rfl, -, value⟩ := exists_of_agrees_binary agree
        exact .cons ⟨rfl, agree⟩ (corresponds_expressionPositions value)
      · obtain ⟨_, _, rfl, target, value⟩ := exists_of_agrees_binary agree
        exact .cons ⟨rfl, agree⟩ (List.rel_append (corresponds_expressionPositions target)
          (corresponds_expressionPositions value))
      · obtain ⟨_, rfl, value⟩ := exists_of_agrees_unary agree
        exact .cons ⟨rfl, agree⟩ (corresponds_expressionPositions value)
      · obtain ⟨_, rfl, value⟩ := exists_of_agrees_unary agree
        exact .cons ⟨rfl, agree⟩ (corresponds_expressionPositions value)
      · cases h

/-- Positions of variables correspond when the variables agree. -/
theorem Position.corresponds_variables {ts us : List Tree}
    (agree : List.Forall₂ (fun t u => t.agrees u) ts us) :
  List.Forall₂ Corresponds (ts.map (⟨.variable, ·⟩)) (us.map (⟨.variable, ·⟩))
  := by
  rw [List.forall₂_map_left_iff, List.forall₂_map_right_iff]
  exact agree.imp fun _ _ found => ⟨rfl, found⟩

/-- Positions of trees side by side correspond when those of each of them do. -/
theorem Position.corresponds_flatMap {f : Tree → List Position} {ts us : List Tree}
    (agree : List.Forall₂ (fun t u => t.agrees u) ts us)
    (each : ∀ {t u : Tree}, t.agrees u → List.Forall₂ Corresponds (f t) (f u)) :
  List.Forall₂ Corresponds (ts.flatMap f) (us.flatMap f)
  := by
  induction agree with
  | nil => apply List.Forall₂.nil
  | cons first _ ih => apply List.rel_append (each first) ih

/-- The positions of methods that agree correspond. -/
theorem Tree.corresponds_methodPositions {t u : Tree} (agree : t.agrees u) :
  List.Forall₂ Corresponds t.methodPositions u.methodPositions
  := by
  cases h : t.isMethod with
  | false =>
      have none : u.isMethod = false := eq_of_agrees isMethod_of_agrees agree ▸ h
      rw [methodPositions_of_not_isMethod h, methodPositions_of_not_isMethod none]
      apply corresponds_singleton _ agree
  | true =>
      rw [isMethod.eq_def] at h
      split at h
      · obtain ⟨_, _, _, _, _, rfl, -, parameters, -, body, -⟩ := exists_of_agrees_quinary agree
        obtain ⟨_, rfl, declared⟩ := agrees_row_iff.mp parameters
        obtain ⟨_, rfl, statements⟩ := agrees_row_iff.mp body
        exact .cons ⟨rfl, agree⟩ (List.rel_append (corresponds_variables declared)
          (corresponds_flatMap statements corresponds_statementPositions))
      · cases h

/-- The positions of classes that agree correspond. -/
theorem Tree.corresponds_classPositions {t u : Tree} (agree : t.agrees u) :
  List.Forall₂ Corresponds t.classPositions u.classPositions
  := by
  cases h : t.isClassDef with
  | false =>
      have none : u.isClassDef = false := eq_of_agrees isClassDef_of_agrees agree ▸ h
      rw [classPositions_of_not_isClassDef h, classPositions_of_not_isClassDef none]
      apply corresponds_singleton _ agree
  | true =>
      rw [isClassDef.eq_def] at h
      split at h
      · obtain ⟨_, _, _, _, _, rfl, -, -, -, fields, methods⟩ := exists_of_agrees_quinary agree
        obtain ⟨_, rfl, declared⟩ := agrees_row_iff.mp fields
        obtain ⟨_, rfl, members⟩ := agrees_row_iff.mp methods
        exact .cons ⟨rfl, agree⟩ (List.rel_append (corresponds_variables declared)
          (corresponds_flatMap members corresponds_methodPositions))
      · cases h

end ContractBindings
