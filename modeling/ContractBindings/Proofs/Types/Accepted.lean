import ContractBindings.Types.Shape
import Mathlib.Tactic.Common

/-!
# Accepted types

What the check of a written type says about it.  A type that is accepted has a shape, and it
is a tuple, or arrays of tuples, exactly when the name in front of its brackets is that of the
tuple type.
-/

namespace ContractBindings.TypeExpr

/-- A name is accepted as the shape that it stands for. -/
theorem check?_name_eq_ok_iff (context text : String) (shape : Shape) :
  (name text).check? context = .ok shape ↔ Shape.ofName? text = some shape
  := by
  rw [check?]
  cases Shape.ofName? text <;> simp

/-- An array is accepted when its length is not zero and its element type is accepted. -/
theorem check?_array_eq_ok_iff (context text length : String) (element : TypeExpr)
    (shape : Shape) :
  (array text length element).check? context = .ok shape
    ↔ lengthIsZero length = false
      ∧ ∃ inner, element.check? context = .ok inner ∧ shape = .array inner
  := by
  rw [check?]
  cases lengthIsZero length with
  | true => simp
  | false =>
      cases element.check? context with
      | error fault =>
          simp only [Bool.false_eq_true, if_false]
          constructor
          · rintro ⟨⟩
          · rintro ⟨-, _, ⟨⟩, -⟩
      | ok inner =>
          simp only [Bool.false_eq_true, if_false, true_and]
          constructor
          · rintro ⟨⟩
            use inner
          · rintro ⟨_, ⟨⟩, rfl⟩
            rfl

/-- An accepted type has the shape that it is accepted as. -/
theorem shape?_of_check? {context : String} {t : TypeExpr} {shape : Shape}
    (h : t.check? context = .ok shape) :
  t.shape? = .ok shape
  := by
  induction t generalizing shape with
  | name text =>
      rw [shape?, (check?_name_eq_ok_iff context text shape).mp h]
  | array text length element ih =>
      obtain ⟨-, inner, checked, rfl⟩ :=
        (check?_array_eq_ok_iff context text length element shape).mp h
      rw [shape?, ih checked]
      rfl

/-- A name stands for a tuple exactly when it is that of the tuple type. -/
theorem isTuple_of_ofName? {text : String} {shape : Shape} (h : Shape.ofName? text = some shape) :
  shape.isTuple = (name text).isTuple
  := by
  rw [Shape.ofName?] at h
  by_cases tuple : text = Shape.tupleName
  · rw [if_pos tuple] at h
    obtain rfl := Option.some.inj h
    simp [Shape.isTuple, isTuple, base, tuple]
  · rw [if_neg tuple] at h
    obtain ⟨s, -, rfl⟩ := Option.map_eq_some_iff.mp h
    simp [Shape.isTuple, isTuple, base, tuple]

/-- A shape is that of a tuple or of arrays of tuples exactly when the name in front of the
brackets of the type says so. -/
theorem isTuple_of_shape? {t : TypeExpr} {shape : Shape} (h : t.shape? = .ok shape) :
  shape.isTuple = t.isTuple
  := by
  induction t generalizing shape with
  | name text =>
      rw [shape?] at h
      split at h
      · next found =>
        obtain rfl := Except.ok.inj h
        apply isTuple_of_ofName? found
      · cases h
  | array text length element ih =>
      rw [shape?] at h
      cases inner : element.shape? with
      | error fault =>
          rw [inner] at h
          cases h
      | ok shape' =>
          rw [inner] at h
          obtain rfl := Except.ok.inj h
          apply ih inner

/-- The shape of an accepted type is that of a tuple or of arrays of tuples exactly when the
name in front of its brackets says so. -/
theorem isTuple_of_check? {context : String} {t : TypeExpr} {shape : Shape}
    (h : t.check? context = .ok shape) :
  shape.isTuple = t.isTuple
  := by
  apply isTuple_of_shape? (shape?_of_check? h)

end ContractBindings.TypeExpr
