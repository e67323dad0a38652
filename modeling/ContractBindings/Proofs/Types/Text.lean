import ContractBindings.Proofs.Fault
import ContractBindings.Proofs.Types.Grammar
import ContractBindings.Types.Text

/-!
# Texts and shapes

The recursions on the text of a type give what the written type, taken apart, gives.  A text
without brackets is read as a name and one with brackets as an array, so that each recursion takes
the steps of the shape, although the conversions look one step further than the others.
-/

namespace ContractBindings.TypeText

/-! ## Reading a text -/

/-- A text without brackets is a name as a whole. -/
theorem ofString_of_suffix?_eq_none {text : String} (h : suffix? text = none) :
  TypeExpr.ofString text = .name text
  := by
  have bare := TypeExpr.ofReversed_of_none (Option.map_eq_none_iff.mp h)
  simpa [TypeExpr.ofString] using bare

/-- A text with brackets is an array of what stands before them. -/
theorem ofString_of_suffix?_eq_some {text element digits : String}
    (h : suffix? text = some (element, digits)) :
  TypeExpr.ofString text = .array text digits (TypeExpr.ofString element)
  := by
  obtain ⟨⟨inside, before⟩, found, taken⟩ := Option.map_eq_some_iff.mp h
  obtain ⟨rfl, rfl⟩ := Prod.mk.inj taken
  have read := TypeExpr.ofReversed_of_brackets? found
  simpa [TypeExpr.ofString] using read

/-- Brackets stand at the end of a text, or before a line break that ends it. -/
theorem spelled_of_suffix?_eq_some {text element digits : String}
    (h : suffix? text = some (element, digits)) :
  ∃ tail, (tail = "" ∨ tail = "\n") ∧ text = element ++ TypeExpr.bracketed digits ++ tail
    ∧ ∀ c ∈ digits.toList, c.isDigit
  := by
  obtain ⟨before, tail, spelled, ended, read, -, number⟩ :=
    TypeExpr.exists_bracketed_of_array (ofString_of_suffix?_eq_some h)
  have same := congrArg TypeExpr.text read
  rw [TypeExpr.text_ofString, TypeExpr.text_ofString] at same
  rw [← same] at spelled
  use tail, ended, spelled

theorem isArray_eq (text : String) :
  isArray text = (TypeExpr.ofString text).isArray
  := by
  rw [isArray]
  cases taken : suffix? text with
  | none => rw [ofString_of_suffix?_eq_none taken]; rfl
  | some parts => rw [ofString_of_suffix?_eq_some taken]; rfl

theorem isTuple_eq (text : String) :
  isTuple text = (TypeExpr.ofString text).isTuple
  := by
  fun_induction isTuple text with
  | case1 text element digits taken ih =>
      rw [ih, ofString_of_suffix?_eq_some taken]
      rfl
  | case2 text taken =>
      rw [ofString_of_suffix?_eq_none taken]
      rfl

/-- A type is refused with the same fault, or else accepted. -/
theorem check?_eq (context text : String) :
  check? context text = ((TypeExpr.ofString text).check? context).map fun _ => ()
  := by
  fun_induction check? context text with
  | case1 text element digits taken zero =>
      rw [ofString_of_suffix?_eq_some taken, TypeExpr.check?, if_pos zero]
      rfl
  | case2 text element digits taken positive ih =>
      rw [ih, ofString_of_suffix?_eq_some taken, TypeExpr.check?, if_neg positive]
      cases (TypeExpr.ofString element).check? context <;> rfl
  | case3 text taken unknown =>
      rw [ofString_of_suffix?_eq_none taken, TypeExpr.check?, Shape.ofName?, if_neg unknown.1,
        Option.isNone_iff_eq_none.mp unknown.2]
      rfl
  | case4 text taken known =>
      rw [ofString_of_suffix?_eq_none taken, TypeExpr.check?, Shape.ofName?]
      by_cases tuple : text = Shape.tupleName
      · rw [if_pos tuple]
        rfl
      · rw [if_neg tuple]
        cases found : Scalar.ofName? text with
        | none =>
            exfalso
            apply known ⟨tuple, Option.isNone_iff_eq_none.mpr found⟩
        | some s => rfl

/-- A text passes the check if and only if it is accepted as the type of a parameter. -/
theorem check?_eq_ok_iff (context text : String) :
  check? context text = .ok () ↔ TypeExpr.Accepted context text
  := by
  rw [check?_eq, TypeExpr.Accepted]
  cases (TypeExpr.ofString text).check? context <;> simp [Except.map]

/-! ## Conversions -/

/-- A text without brackets is that of a tuple, or else looked up among the scalar types. -/
theorem shape?_of_suffix?_eq_none {text : String} (h : suffix? text = none) :
  (TypeExpr.ofString text).shape?
    = if text = Shape.tupleName then .ok .tuple else (scalar? text).map Shape.scalar
  := by
  rw [ofString_of_suffix?_eq_none h, TypeExpr.shape?, Shape.ofName?, scalar?]
  by_cases tuple : text = Shape.tupleName
  · rw [if_pos tuple, if_pos tuple]
  · rw [if_neg tuple, if_neg tuple]
    cases Scalar.ofName? text <;> rfl

/-- A text with brackets has the shape of an array. -/
theorem shape?_of_suffix?_eq_some {text element digits : String}
    (h : suffix? text = some (element, digits)) :
  (TypeExpr.ofString text).shape? = (TypeExpr.ofString element).shape?.map Shape.array
  := by
  rw [ofString_of_suffix?_eq_some h, TypeExpr.shape?]
  cases (TypeExpr.ofString element).shape? <;> rfl

/-- The shape of an array, if it has one, is an array. -/
theorem exists_of_shape?_of_isArray {text : String} {shape : Shape} (h : isArray text)
    (shaped : (TypeExpr.ofString text).shape? = .ok shape) :
  ∃ element, shape = .array element
  := by
  obtain ⟨⟨element, digits⟩, taken⟩ := Option.isSome_iff_exists.mp h
  rw [shape?_of_suffix?_eq_some taken, Fault.map_eq_ok_iff] at shaped
  obtain ⟨inner, -, rfl⟩ := shaped
  use inner

/-- A text that is no array has no brackets. -/
theorem suffix?_of_not_isArray {text : String} (h : ¬ isArray text) :
  suffix? text = none
  := by
  simpa [isArray] using h

theorem codeType?_eq (structName : Option String) (text : String) :
  codeType? structName text = (TypeExpr.ofString text).shape?.map (Shape.codeType structName)
  := by
  fun_induction codeType? structName text with
  | case1 text element digits taken ih =>
      rw [ih, shape?_of_suffix?_eq_some taken]
      cases (TypeExpr.ofString element).shape? <;> rfl
  | case2 taken =>
      rw [shape?_of_suffix?_eq_none taken, if_pos rfl]
      rfl
  | case3 text taken other =>
      rw [shape?_of_suffix?_eq_none taken, if_neg other]
      cases scalar? text <;> rfl

theorem decode?_eq (structName : Option String) (text : String) :
  decode? structName text = (TypeExpr.ofString text).shape?.map (Shape.decode structName)
  := by
  fun_induction decode? structName text with
  | case1 text element digits taken nested ih =>
      rw [ih, shape?_of_suffix?_eq_some taken, codeType?_eq]
      cases shaped : (TypeExpr.ofString element).shape? with
      | error fault => rfl
      | ok shape =>
          obtain ⟨inner, rfl⟩ := exists_of_shape?_of_isArray nested shaped
          rfl
  | case2 text digits taken bare =>
      rw [shape?_of_suffix?_eq_some taken,
        shape?_of_suffix?_eq_none (suffix?_of_not_isArray bare), if_pos rfl]
      rfl
  | case3 text element digits taken bare other =>
      rw [shape?_of_suffix?_eq_some taken,
        shape?_of_suffix?_eq_none (suffix?_of_not_isArray bare), if_neg other]
      cases scalar? element <;> rfl
  | case4 name made taken =>
      rw [shape?_of_suffix?_eq_none taken, if_pos rfl]
      apply congrArg Except.ok
      funext v
      rw [Shape.decode, made]
  | case5 unmade taken =>
      rw [shape?_of_suffix?_eq_none taken, if_pos rfl]
      apply congrArg Except.ok
      funext v
      rw [Shape.decode, unmade]
  | case6 text taken other =>
      rw [shape?_of_suffix?_eq_none taken, if_neg other]
      cases scalar? text <;> rfl

theorem encode?_eq (structName : Option String) (text : String) :
  encode? structName text = (TypeExpr.ofString text).shape?.map (Shape.encode structName)
  := by
  fun_induction encode? structName text with
  | case1 text element digits taken nested ih =>
      rw [ih, shape?_of_suffix?_eq_some taken, codeType?_eq]
      cases shaped : (TypeExpr.ofString element).shape? with
      | error fault => rfl
      | ok shape =>
          obtain ⟨inner, rfl⟩ := exists_of_shape?_of_isArray nested shaped
          rfl
  | case2 text digits taken bare =>
      rw [shape?_of_suffix?_eq_some taken,
        shape?_of_suffix?_eq_none (suffix?_of_not_isArray bare), if_pos rfl]
      rfl
  | case3 text element digits taken bare other =>
      rw [shape?_of_suffix?_eq_some taken,
        shape?_of_suffix?_eq_none (suffix?_of_not_isArray bare), if_neg other]
      cases scalar? element <;> rfl
  | case4 taken =>
      rw [shape?_of_suffix?_eq_none taken, if_pos rfl]
      rfl
  | case5 text taken other =>
      rw [shape?_of_suffix?_eq_none taken, if_neg other]
      cases scalar? text <;> rfl

section

variable {text : String} {shape : Shape} (shaped : (TypeExpr.ofString text).shape? = .ok shape)
  (structName : Option String)

include shaped

theorem codeType?_of_shape? :
  codeType? structName text = .ok (shape.codeType structName)
  := by
  rw [codeType?_eq, shaped]
  rfl

theorem decode?_of_shape? :
  decode? structName text = .ok (shape.decode structName)
  := by
  rw [decode?_eq, shaped]
  rfl

theorem encode?_of_shape? :
  encode? structName text = .ok (shape.encode structName)
  := by
  rw [encode?_eq, shaped]
  rfl

end

end ContractBindings.TypeText
