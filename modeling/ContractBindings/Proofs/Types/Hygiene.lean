import ContractBindings.Proofs.Code.Placeholder
import ContractBindings.Proofs.Types.Text
import Mathlib.Tactic.Common

/-!
# Conversions are hygienic

The functions that a conversion maps over the elements of arrays all use one local.  Still, no
value that is converted is captured by them, whatever names it speaks of, and none is evaluated
more than once: the conversions are passages, in both directions and for every shape.
-/

namespace ContractBindings

namespace Shape

open ContractBindings.Expr (Passage)

variable (structName : Option String)

/-- The conversion of decoded values is a passage. -/
theorem passage_decode (shape : Shape) :
  Passage elementName (shape.decode structName)
  := by
  induction shape with
  | scalar s => apply Passage.stay.call
  | tuple =>
      have start : Passage elementName fun v => v := .stay
      have tuple := start.call "toTuple" []
      cases named : structClass? structName with
      | none => simpa only [funext_iff, decode, named] using tuple
      | some name => simpa only [funext_iff, decode, named] using tuple.cast name
  | array element ih =>
      cases element with
      | scalar s => apply Passage.stay.call
      | tuple => apply Passage.stay.call
      | array inner => apply (Passage.stay.call _ _).map ih

/-- The conversion to values that can be encoded is a passage. -/
theorem passage_encode (shape : Shape) :
  Passage elementName (shape.encode structName)
  := by
  induction shape with
  | scalar s => apply Passage.stay.staticCall
  | tuple => apply Passage.stay.staticCall
  | array element ih =>
      cases element with
      | scalar s => apply Passage.stay.staticCall
      | tuple => apply Passage.stay.staticCall
      | array inner => apply (Passage.stay.map ih _ _ _ _).staticCall

end Shape

open ContractBindings.Expr (Hygienic)

/-- The conversions of a type that has them, in either direction, use the value that they convert
once and capture nothing of it. -/
theorem TypeExpr.hygienic_of_conversion {structName : Option String} {text : String}
    {convert : Expr → Expr}
    (made : TypeText.decode? structName text = .ok convert
      ∨ TypeText.encode? structName text = .ok convert) :
  Hygienic Shape.elementName convert
  := by
  rw [TypeText.decode?_eq, TypeText.encode?_eq] at made
  obtain decoding | encoding := made
  · obtain ⟨shape, -, rfl⟩ := Fault.map_eq_ok_iff.mp decoding
    apply (shape.passage_decode structName).hygienic
  · obtain ⟨shape, -, rfl⟩ := Fault.map_eq_ok_iff.mp encoding
    apply (shape.passage_encode structName).hygienic

/-- An argument of a wrapper that is called like the local of the functions in its conversion, and
that has such a function itself. -/
def namesake : Expr :=
  .index
    (.call (.name "value") "map" [.lambda ⟨"value", "BigInt"⟩ "BigInt" (.name "value")] ["BigInt"])
    (.name "value")

/-- The shape of flags in three dimensions. -/
def cube : Shape :=
  .array (.array (.array (.scalar .bool)))

theorem TypeExpr.hygienic_of_conversion_namesake :
  (TypeText.encode? none "bool[2][][]" = .ok (cube.encode none)
    ∧ Hygienic Shape.elementName (cube.encode none))
  ∧ cube.encode none namesake = Expr.replace "input" namesake (cube.encode none (.name "input"))
  := by
  have made : TypeText.encode? none "bool[2][][]" = .ok (cube.encode none) := by
    apply TypeText.encode?_of_shape?
    decide +kernel
  have hygienic := hygienic_of_conversion (.inr made)
  use ⟨made, hygienic⟩
  apply hygienic.replaced
  decide

end ContractBindings
