import ContractBindings.Proofs.Code.Typing
import ContractBindings.Proofs.Types.Text
import Mathlib.Logic.Function.Iterate

/-!
# Types without their brackets

Brackets are taken off the end of a text until none are left.  `TypeText.Stripped` lists what they
held, the last ones first, and what is left of the text.  There is one way to do so for every text,
and it decides all that is asked of the text as a type: whether it is a tuple, which type represents
it, whether it can be converted, and whether an interface may declare it
(`TypeText.decided_by_stripping`).
-/

namespace ContractBindings.TypeText

open TypeExpr (IsBase bracketed decimal)

/-! ## Brackets that are taken off -/

/-- A text that has brackets at its end, or before a line break that ends it, with digits between
them. -/
structure EndsIn (text element digits : String) : Prop where
  taken : element? text = .ok element
  spelled : ∃ tail, (tail = "" ∨ tail = "\n") ∧ text = element ++ bracketed digits ++ tail
  number : ∀ c ∈ digits.toList, c.isDigit

/-- A text with what its brackets hold, the last ones first, and what is left without them. -/
inductive Stripped : String → List String → String → Prop where
  | bare {text : String} (none : element? text = .error (.unsupportedType text "")) :
    Stripped text [] text
  | suffixed {text element digits inner : String} {lengths : List String}
    (ending : EndsIn text element digits) (later : Stripped element lengths inner) :
    Stripped text (digits :: lengths) inner

/-- Brackets around digits end where the digits do. -/
theorem digits_eq_of_bracketed_append {digits digits' tail tail' : String}
    (number : ∀ c ∈ digits.toList, c.isDigit) (number' : ∀ c ∈ digits'.toList, c.isDigit)
    (h : bracketed digits ++ tail = bracketed digits' ++ tail') :
  digits = digits'
  := by
  have spelled : digits.toList ++ ']' :: tail.toList = digits'.toList ++ ']' :: tail'.toList := by
    simpa [bracketed] using congrArg String.toList h
  have leading := congrArg (List.takeWhile Char.isDigit) spelled
  rw [List.takeWhile_append_of_pos number, List.takeWhile_append_of_pos number'] at leading
  apply String.toList_injective
  simpa using leading

/-- A text without an element type has no brackets at its end. -/
theorem suffix?_of_element?_eq_error {text : String} {fault : Fault}
    (h : element? text = .error fault) :
  suffix? text = none
  := by
  rw [element?] at h
  split at h
  · cases h
  · assumption

/-- A text ends in brackets if and only if they are taken off as its last ones. -/
theorem endsIn_iff {text element digits : String} :
  EndsIn text element digits ↔ suffix? text = some (element, digits)
  := by
  constructor
  · rintro ⟨taken, ⟨tail, -, spelled⟩, number⟩
    rw [element?] at taken
    split at taken
    · next element' digits' found =>
      obtain rfl := Except.ok.inj taken
      obtain ⟨tail', -, spelled', number'⟩ := spelled_of_suffix?_eq_some found
      rw [spelled, String.append_assoc, String.append_assoc, String.append_right_inj] at spelled'
      rw [found, digits_eq_of_bracketed_append number number' spelled']
    · cases taken
  · intro found
    obtain ⟨tail, ended, spelled, number⟩ := spelled_of_suffix?_eq_some found
    refine ⟨?_, ⟨tail, ended, spelled⟩, number⟩
    rw [element?, found]

/-- Every text can be stripped. -/
theorem exists_stripped (text : String) :
  ∃ lengths inner, Stripped text lengths inner
  := by
  fun_induction isTuple text with
  | case1 text element digits found ih =>
      obtain ⟨lengths, inner, later⟩ := ih
      use digits :: lengths, inner
      apply Stripped.suffixed (endsIn_iff.mpr found) later
  | case2 text found =>
      use [], text
      apply Stripped.bare
      rw [element?, found]

/-- There is no other way to strip a text. -/
theorem Stripped.unique {text inner inner' : String} {lengths lengths' : List String}
    (h : Stripped text lengths inner) (h' : Stripped text lengths' inner') :
  lengths' = lengths ∧ inner' = inner
  := by
  induction h generalizing lengths' inner' with
  | bare none =>
      cases h' with
      | bare => exact ⟨rfl, rfl⟩
      | suffixed ending' _ =>
          rw [ending'.taken] at none
          cases none
  | suffixed ending _ ih =>
      cases h' with
      | bare none =>
          rw [ending.taken] at none
          cases none
      | suffixed ending' later' =>
          have same := (endsIn_iff.mp ending).symm.trans (endsIn_iff.mp ending')
          obtain ⟨rfl, rfl⟩ := Prod.mk.inj (Option.some.inj same)
          obtain ⟨rfl, rfl⟩ := ih later'
          exact ⟨rfl, rfl⟩

/-! ## What is left decides -/

/-- The types that stand for base names, where a tuple is represented by the given class. -/
inductive StandsFor (structName : Option String) : String → String → Prop where
  | tuple : StandsFor structName Shape.tupleName (tupleClass structName)
  | scalar (s : Scalar) : StandsFor structName s.name s.codeType

/-- What is said of a text as a type, by what its brackets hold and what is left without them.  If a
base name is left, then arrays of the type that stands for it represent the text, one for each pair
of brackets, and the text can be converted in both directions.  Any other name is refused, whatever
is asked of the text. -/
structure DecidedBy (text : String) (lengths : List String) (inner : String) : Prop where
  known (h : IsBase inner) (structName : Option String) :
    ∃ type decode encode, StandsFor structName inner type
      ∧ codeType? structName text = .ok (arrayOf^[lengths.length] type)
      ∧ decode? structName text = .ok decode
      ∧ encode? structName text = .ok encode
  refused (h : ¬ IsBase inner) (structName : Option String) :
    codeType? structName text = .error (.unsupportedType inner "")
      ∧ decode? structName text = .error (.unsupportedType inner "")
      ∧ encode? structName text = .error (.unsupportedType inner "")
  isTuple : isTuple text = true ↔ inner = Shape.tupleName
  accepted (context : String) :
    check? context text = .ok ()
      ↔ IsBase inner ∧ ∀ digits ∈ lengths, ¬(digits ≠ "" ∧ decimal digits = 0)

namespace Stripped

variable {text inner : String} {lengths : List String} (stripped : Stripped text lengths inner)

include stripped

/-- What is left is that of a tuple if and only if the text is. -/
theorem isTuple_iff :
  isTuple text = true ↔ inner = Shape.tupleName
  := by
  rw [isTuple_eq]
  induction stripped with
  | bare none =>
      rw [ofString_of_suffix?_eq_none (suffix?_of_element?_eq_error none)]
      apply beq_iff_eq
  | suffixed ending _ ih =>
      rw [ofString_of_suffix?_eq_some (endsIn_iff.mp ending)]
      apply ih

/-- A text has a shape if what is left of it has one: this in as many arrays as there are brackets.
Otherwise the fault is on what is left. -/
theorem shape?_eq :
  (TypeExpr.ofString text).shape?
    = (TypeExpr.name inner).shape?.map (Shape.array^[lengths.length])
  := by
  induction stripped with
  | @bare text none =>
      rw [ofString_of_suffix?_eq_none (suffix?_of_element?_eq_error none)]
      cases (TypeExpr.name text).shape? <;> rfl
  | @suffixed _ _ _ inner _ ending _ ih =>
      rw [shape?_of_suffix?_eq_some (endsIn_iff.mp ending), ih, List.length_cons,
        Function.iterate_succ']
      cases (TypeExpr.name inner).shape? <;> rfl

/-- A text is accepted if what is left is, and no brackets hold zero. -/
theorem check?_eq_ok_iff (context : String) :
  check? context text = .ok ()
    ↔ IsBase inner ∧ ∀ digits ∈ lengths, ¬(digits ≠ "" ∧ decimal digits = 0)
  := by
  rw [TypeText.check?_eq_ok_iff]
  induction stripped with
  | bare none =>
      rw [TypeExpr.accepted_iff_isBase
        (ofString_of_suffix?_eq_none (suffix?_of_element?_eq_error none))]
      simp
  | suffixed ending _ ih =>
      rw [TypeExpr.accepted_iff_of_array (ofString_of_suffix?_eq_some (endsIn_iff.mp ending)), ih,
        List.forall_mem_cons, ← TypeExpr.lengthIsZero_iff ending.number, Bool.not_eq_true]
      apply and_left_comm

end Stripped

/-- A shape in arrays is represented by arrays of the type of the shape. -/
theorem codeType_iterate_array (structName : Option String) (n : Nat) (shape : Shape) :
  (Shape.array^[n] shape).codeType structName = arrayOf^[n] (shape.codeType structName)
  := by
  induction n with
  | zero => rfl
  | succ n ih =>
      rw [Function.iterate_succ_apply', Function.iterate_succ_apply', ← ih]
      rfl

/-- A base name has a shape, which is represented by the type that stands for the name. -/
theorem exists_shape_of_isBase {inner : String} (h : IsBase inner) (structName : Option String) :
  ∃ shape, Shape.ofName? inner = some shape
    ∧ StandsFor structName inner (shape.codeType structName)
  := by
  obtain rfl | ⟨s, rfl⟩ := h
  · exact ⟨.tuple, rfl, .tuple⟩
  · exact ⟨.scalar s, Shape.ofName?_name s, .scalar s⟩

/-- What brackets hold and what is left without them decides what is said of a type. -/
theorem Stripped.decidedBy {text inner : String} {lengths : List String}
    (stripped : Stripped text lengths inner) :
  DecidedBy text lengths inner
  where
  known h structName := by
    obtain ⟨shape, found, stands⟩ := exists_shape_of_isBase h structName
    have whole : (TypeExpr.ofString text).shape? = .ok (Shape.array^[lengths.length] shape) := by
      rw [stripped.shape?_eq, TypeExpr.shape?, found]
      rfl
    use shape.codeType structName, (Shape.array^[lengths.length] shape).decode structName,
      (Shape.array^[lengths.length] shape).encode structName, stands
    rw [codeType?_eq, decode?_eq, encode?_eq, whole, ← codeType_iterate_array]
    exact ⟨rfl, rfl, rfl⟩
  refused h structName := by
    have unknown : Shape.ofName? inner = none := by
      rw [← TypeExpr.exists_ofName?_iff] at h
      simpa [Option.eq_none_iff_forall_ne_some] using h
    have whole : (TypeExpr.ofString text).shape? = .error (.unsupportedType inner "") := by
      rw [stripped.shape?_eq, TypeExpr.shape?, unknown]
      rfl
    rw [codeType?_eq, decode?_eq, encode?_eq, whole]
    exact ⟨rfl, rfl, rfl⟩
  isTuple := stripped.isTuple_iff
  accepted := stripped.check?_eq_ok_iff

/-- Whatever text is taken for a type, its brackets can be taken off in one way, and what they hold
and what is left decide what is said of it. -/
theorem decided_by_stripping (text : String) :
  ∃ lengths inner, Stripped text lengths inner
    ∧ (∀ lengths' inner', Stripped text lengths' inner' → lengths' = lengths ∧ inner' = inner)
    ∧ DecidedBy text lengths inner
  := by
  obtain ⟨lengths, inner, stripped⟩ := exists_stripped text
  use lengths, inner, stripped
  constructor
  · intro lengths' inner' stripped'
    apply stripped.unique stripped'
  · apply stripped.decidedBy

end ContractBindings.TypeText
