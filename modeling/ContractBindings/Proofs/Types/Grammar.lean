import ContractBindings.Proofs.Types.Accepted
import Mathlib.Data.List.TakeWhile

/-!
# The grammar of types

A type of the grammar is a base name, which is `tuple` or that of a scalar type, followed by any
number of suffixes.  A suffix is a pair of brackets, which are empty or hold a positive number in
decimal digits.

`TypeExpr.accepted_iff_grammatical` says which texts the check accepts: the types of the grammar,
and those that end in a suffix also with a line break after it.
-/

namespace ContractBindings.TypeExpr

/-! ## Texts of the grammar -/

/-- A name that a type may start with. -/
def IsBase (name : String) : Prop :=
  name = Shape.tupleName ∨ ∃ s : Scalar, name = s.name

/-- The number that decimal digits stand for. -/
def decimal (digits : String) : Nat :=
  Nat.ofDigitChars 10 digits.toList 0

/-- Brackets with what stands between them. -/
def bracketed (inside : String) : String :=
  "[" ++ inside ++ "]"

/-- Brackets that are empty, or hold a positive number in decimal digits. -/
inductive IsSuffix : String → Prop where
  | unsized : IsSuffix (bracketed "")
  | sized {digits : String} (spelled : ∀ c ∈ digits.toList, c.isDigit)
    (positive : 1 ≤ decimal digits) : IsSuffix (bracketed digits)

/-- A base name followed by any number of suffixes. -/
inductive Grammatical : String → Prop where
  | base {name : String} (named : IsBase name) : Grammatical name
  | suffixed {element suffix : String} (h : Grammatical element) (ending : IsSuffix suffix) :
    Grammatical (element ++ suffix)

/-- A text that is accepted as the type of a parameter. -/
def Accepted (context text : String) : Prop :=
  ∃ shape, (ofString text).check? context = .ok shape

/-! ## Lengths -/

/-- Digits stand for zero if and only if all of them are zero, whatever was read before. -/
theorem ofDigitChars_eq_zero_iff {cs : List Char} (spelled : ∀ c ∈ cs, c.isDigit) (start : Nat) :
  Nat.ofDigitChars 10 cs start = 0 ↔ start = 0 ∧ ∀ c ∈ cs, c = '0'
  := by
  induction cs generalizing start with
  | nil => simp
  | cons c cs ih =>
      obtain ⟨digit, later⟩ := List.forall_mem_cons.mp spelled
      have zero : c.toNat - '0'.toNat = 0 ↔ c = '0' := by
        have bound : '0'.toNat ≤ c.toNat := by
          rw [Char.isDigit, Bool.and_eq_true, decide_eq_true_eq] at digit
          apply digit.1
        rw [← Char.toNat_inj, Nat.sub_eq_zero_iff_le]
        constructor
        · intro small
          apply Nat.le_antisymm small bound
        · apply Nat.le_of_eq
      rw [Nat.ofDigitChars_cons, ih later, List.forall_mem_cons, ← zero, Nat.add_eq_zero_iff,
        Nat.mul_eq_zero, or_iff_right (by decide), and_assoc]

/-- The check refuses a length if and only if it stands for zero. -/
theorem lengthIsZero_iff {digits : String} (spelled : ∀ c ∈ digits.toList, c.isDigit) :
  lengthIsZero digits = true ↔ digits ≠ "" ∧ decimal digits = 0
  := by
  simp [lengthIsZero, decimal, ofDigitChars_eq_zero_iff spelled]

/-- A suffix is a pair of brackets around digits that the check does not refuse. -/
theorem isSuffix_iff (suffix : String) :
  IsSuffix suffix
    ↔ ∃ digits, suffix = bracketed digits ∧ (∀ c ∈ digits.toList, c.isDigit)
      ∧ lengthIsZero digits = false
  := by
  constructor
  · rintro (_ | ⟨spelled, positive⟩)
    · refine ⟨"", rfl, ?_, rfl⟩
      simp
    · refine ⟨_, rfl, spelled, ?_⟩
      rw [← Bool.not_eq_true, lengthIsZero_iff spelled]
      omega
  · rintro ⟨digits, rfl, spelled, accepted⟩
    rw [← Bool.not_eq_true, lengthIsZero_iff spelled] at accepted
    by_cases empty : digits = ""
    · rw [empty]
      apply IsSuffix.unsized
    · apply IsSuffix.sized spelled
      by_contra small
      apply accepted ⟨empty, by omega⟩

/-! ## Brackets at the end of a text -/

/-- The last brackets of a text are those before its end, or before the line break that ends
it, with an element type on a single line before them. -/
theorem brackets?_eq_some_iff {reversed digits before : List Char} :
  brackets? reversed = some (digits, before)
    ↔ closing reversed = ']' :: (digits ++ '[' :: before)
      ∧ (∀ c ∈ digits, c.isDigit) ∧ before ≠ [] ∧ '\n' ∉ before
  := by
  constructor
  · intro h
    rw [brackets?] at h
    split at h
    · next rest closed =>
      split at h
      · next before' opened =>
        split at h
        · cases h
        · next single =>
          obtain ⟨rfl, rfl⟩ := Prod.mk.inj (Option.some.inj h)
          rw [not_or] at single
          refine ⟨?_, ?_, single⟩
          · rw [closed, ← opened, List.takeWhile_append_dropWhile]
          · intro c inside
            apply List.mem_takeWhile_imp inside
      · cases h
    · cases h
  · rintro ⟨closed, spelled, there, single⟩
    have taken : (digits ++ '[' :: before).takeWhile Char.isDigit = digits := by
      rw [List.takeWhile_append_of_pos spelled]
      simp
    have dropped : (digits ++ '[' :: before).dropWhile Char.isDigit = '[' :: before := by
      rw [List.dropWhile_append_of_pos spelled]
      simp
    simp [brackets?, closed, taken, dropped, there, single]

theorem closing_of_ne {c : Char} (h : c ≠ '\n') (rest : List Char) :
  closing (c :: rest) = c :: rest
  := by
  rw [closing]
  rintro _ ⟨⟩
  apply h rfl

theorem exists_eq_append_closing (reversed : List Char) :
  ∃ tail, (tail = [] ∨ tail = ['\n']) ∧ reversed = tail ++ closing reversed
  := by
  rw [closing.eq_def]
  split
  · exact ⟨['\n'], .inr rfl, rfl⟩
  · exact ⟨[], .inl rfl, rfl⟩

/-- A text that ends in brackets is taken apart there. -/
theorem ofReversed_of_brackets? {reversed digits before : List Char}
    (h : brackets? reversed = some (digits, before)) :
  ofReversed reversed
    = array (String.ofList reversed.reverse) (String.ofList digits.reverse) (ofReversed before)
  := by
  rw [ofReversed]
  split
  · next none_found =>
    rw [h] at none_found
    cases none_found
  · next found =>
    rw [h] at found
    obtain ⟨rfl, rfl⟩ := Prod.mk.inj (Option.some.inj found)
    rfl

/-- A text that does not end in brackets is a name. -/
theorem ofReversed_of_none {reversed : List Char} (h : brackets? reversed = none) :
  ofReversed reversed = name (String.ofList reversed.reverse)
  := by
  rw [ofReversed]
  split
  · rfl
  · next found =>
    rw [h] at found
    cases found

/-- An element type with brackets after it is taken apart before them, also when a line break
follows. -/
theorem ofString_bracketed {element digits : String} (spelled : ∀ c ∈ digits.toList, c.isDigit)
    (there : element ≠ "") (single : '\n' ∉ element.toList) {tail : String}
    (ended : tail = "" ∨ tail = "\n") :
  ofString (element ++ bracketed digits ++ tail)
    = array (element ++ bracketed digits ++ tail) digits (ofString element)
  := by
  have found : brackets? (element ++ bracketed digits ++ tail).toList.reverse
      = some (digits.toList.reverse, element.toList.reverse) := by
    apply brackets?_eq_some_iff.mpr
    refine ⟨?_, ?_, ?_, ?_⟩
    · rcases ended with rfl | rfl
      · simp [bracketed, closing_of_ne]
      · simp [bracketed, closing]
    · simpa using spelled
    · simpa using there
    · simpa using single
  rw [ofString, ofReversed_of_brackets? found]
  simp [ofString, String.append_assoc]

/-- A text that is taken apart as an array has brackets after its element type, and possibly a
line break after them. -/
theorem exists_bracketed_of_array {text whole digits : String} {element : TypeExpr}
    (h : ofString text = array whole digits element) :
  ∃ before tail, text = before ++ bracketed digits ++ tail ∧ (tail = "" ∨ tail = "\n")
    ∧ element = ofString before ∧ '\n' ∉ before.toList ∧ ∀ c ∈ digits.toList, c.isDigit
  := by
  rw [ofString] at h
  cases found : brackets? text.toList.reverse with
  | none =>
      rw [ofReversed_of_none found] at h
      cases h
  | some parts =>
      obtain ⟨ds, before⟩ := parts
      rw [ofReversed_of_brackets? found] at h
      cases h
      obtain ⟨closed, spelled, -, single⟩ := brackets?_eq_some_iff.mp found
      obtain ⟨tail, ended, whole⟩ := exists_eq_append_closing text.toList.reverse
      rw [closed] at whole
      refine ⟨String.ofList before.reverse, String.ofList tail, ?_, ?_, ?_, ?_, ?_⟩
      · have spelledOut := congrArg List.reverse whole
        apply String.toList_injective
        rcases ended with rfl | rfl <;> simpa [bracketed] using spelledOut
      · rcases ended with rfl | rfl
        · left
          rfl
        · right
          rfl
      · simp [ofString]
      · simpa using single
      · simpa using spelled

/-! ## Accepted texts -/

/-- A name is that of a shape if and only if a type may start with it. -/
theorem exists_ofName?_iff (name : String) :
  (∃ shape, Shape.ofName? name = some shape) ↔ IsBase name
  := by
  rw [Shape.ofName?, IsBase]
  by_cases tuple : name = Shape.tupleName
  · simp [tuple]
  · rw [if_neg tuple, or_iff_right tuple]
    constructor
    · rintro ⟨shape, found⟩
      obtain ⟨s, scalar, -⟩ := Option.map_eq_some_iff.mp found
      use s
      have spelled := List.find?_some scalar
      rw [beq_iff_eq] at spelled
      apply spelled.symm
    · rintro ⟨s, rfl⟩
      use .scalar s
      rw [Scalar.ofName?_name]
      rfl

/-- A base name is not empty, and has neither a line break nor a bracket. -/
theorem IsBase.spelled {name : String} (h : IsBase name) :
  name ≠ "" ∧ '\n' ∉ name.toList ∧ ']' ∉ name.toList
  := by
  rcases h with rfl | ⟨s, rfl⟩
  · decide
  · have named : ∀ s ∈ Scalar.all, s.name ≠ "" ∧ '\n' ∉ s.name.toList ∧ ']' ∉ s.name.toList := by
      decide +kernel
    apply named s (Scalar.mem_all s)

/-- A base name is taken for a name as a whole. -/
theorem IsBase.ofString_eq {name : String} (h : IsBase name) :
  ofString name = .name name
  := by
  cases taken : ofString name with
  | name whole => rw [← text_ofString name, taken, text]
  | array whole digits element =>
      obtain ⟨before, tail, spelled, -⟩ := exists_bracketed_of_array taken
      exfalso
      apply h.spelled.2.2
      rw [spelled]
      simp [bracketed]

/-- A type of the grammar is not empty and has no line break. -/
theorem Grammatical.spelled {text : String} (h : Grammatical text) :
  text ≠ "" ∧ '\n' ∉ text.toList
  := by
  induction h with
  | base named => exact ⟨named.spelled.1, named.spelled.2.1⟩
  | suffixed _ ending ih =>
      obtain ⟨digits, rfl, decimal, -⟩ := (isSuffix_iff _).mp ending
      constructor
      · simp [ih.1]
      · have digit : '\n' ∉ digits.toList := by
          intro inside
          cases decimal _ inside
        simp [bracketed, ih.2, digit]

/-- A text that is a name as a whole is accepted if and only if it is a base name. -/
theorem accepted_iff_isBase {text : String} (h : ofString text = name text) (context : String) :
  Accepted context text ↔ IsBase text
  := by
  rw [Accepted, h, ← exists_ofName?_iff]
  simp only [check?_name_eq_ok_iff]

/-- An array is accepted if and only if its length is not zero and its element type is
accepted. -/
theorem accepted_iff_of_array {text whole digits before : String}
    (h : ofString text = array whole digits (ofString before)) (context : String) :
  Accepted context text ↔ lengthIsZero digits = false ∧ Accepted context before
  := by
  rw [Accepted, h]
  simp only [check?_array_eq_ok_iff]
  constructor
  · rintro ⟨_, positive, inner, accepted, -⟩
    use positive, inner
  · rintro ⟨positive, inner, accepted⟩
    use .array inner, positive, inner

/-- A type of the grammar with a suffix is accepted if the type is, also when a line break
follows. -/
theorem Accepted.append {context element suffix tail : String} (h : Accepted context element)
    (grammatical : Grammatical element) (ending : IsSuffix suffix)
    (ended : tail = "" ∨ tail = "\n") :
  Accepted context (element ++ suffix ++ tail)
  := by
  obtain ⟨digits, rfl, spelled, positive⟩ := (isSuffix_iff _).mp ending
  obtain ⟨there, single⟩ := grammatical.spelled
  apply (accepted_iff_of_array (ofString_bracketed spelled there single ended) context).mpr
  exact ⟨positive, h⟩

/-- The types of the grammar are accepted. -/
theorem Grammatical.accepted {text : String} (h : Grammatical text) (context : String) :
  Accepted context text
  := by
  induction h with
  | base named => apply (accepted_iff_isBase named.ofString_eq context).mpr named
  | suffixed grammatical ending ih =>
      have extended := ih.append grammatical ending (.inl rfl)
      rwa [String.append_empty] at extended

/-- A text that is accepted is a type of the grammar, apart from a line break after a suffix. -/
theorem grammatical_of_accepted {context text : String} (h : Accepted context text) :
  Grammatical text
    ∨ ∃ element suffix, Grammatical element ∧ IsSuffix suffix ∧ text = element ++ suffix ++ "\n"
  := by
  generalize taken : ofString text = t
  induction t generalizing text with
  | name whole =>
      have whole_eq : whole = text := by
        rw [← text_ofString text, taken, TypeExpr.text]
      rw [whole_eq] at taken
      left
      apply Grammatical.base ((accepted_iff_isBase taken context).mp h)
  | array whole digits element ih =>
      obtain ⟨before, tail, rfl, ended, rfl, single, spelled⟩ := exists_bracketed_of_array taken
      obtain ⟨positive, accepted⟩ := (accepted_iff_of_array taken context).mp h
      have ending : IsSuffix (bracketed digits) :=
        (isSuffix_iff _).mpr ⟨digits, rfl, spelled, positive⟩
      -- What stands before the brackets is on a single line, so no line break ends it.
      have grammatical : Grammatical before := by
        rcases ih accepted rfl with grammatical | ⟨element, suffix, -, -, rfl⟩
        · apply grammatical
        · simp at single
      rcases ended with rfl | rfl
      · left
        rw [String.append_empty]
        apply grammatical.suffixed ending
      · right
        use before, bracketed digits

/-- The accepted texts are the types of the grammar, and the types of the grammar that end in a
suffix with a line break after them. -/
theorem accepted_iff_grammatical (context text : String) :
  Accepted context text
    ↔ Grammatical text
      ∨ ∃ element suffix, Grammatical element ∧ IsSuffix suffix ∧ text = element ++ suffix ++ "\n"
  := by
  constructor
  · apply grammatical_of_accepted
  · rintro (grammatical | ⟨element, suffix, grammatical, ending, rfl⟩)
    · apply grammatical.accepted
    · apply (grammatical.accepted context).append grammatical ending (.inr rfl)

/-- A line break after a suffix is accepted, but it is not part of the grammar. -/
theorem accepted_not_grammatical_lineBreak :
  Accepted "" "uint8[]\n" ∧ ¬ Grammatical "uint8[]\n"
  := by
  constructor
  · use .array (.scalar (.uint (some 0)))
    decide +kernel
  · intro grammatical
    apply grammatical.spelled.2
    decide

end ContractBindings.TypeExpr
