import ContractBindings.Proofs.Code.Evaluation
import ContractBindings.Proofs.Types.Text

/-!
# Values of conversions

What the conversions of a shape make of a value.  `Shape.encoded?` and `Shape.decoded?` say it by
recursion on the shape, without any code: one method of the library for scalars, for tuples and
for arrays of them, and for arrays of arrays the same for each element between two methods of the
library.  `Shape.eval_encode` and `Shape.eval_decode` say that this is the value of the code,
wherever it stands and whatever expression it is applied to: a conversion evaluates this
expression once and has no further effect.
-/

namespace ContractBindings

variable {α : Type}

namespace Shape

/-- The value that the conversion of a represented value makes. -/
def encoded? (R : Runtime α) : Shape → Value α → Option (Value α)
  | scalar s, x => R.static? Provided.value ("from" ++ s.encodedKind) [x] []
  | tuple, x => R.static? Provided.value "fromTuple" [x] []
  | array (scalar s), x => R.static? Provided.value ("from" ++ s.encodedKind ++ "Array") [x] []
  | array tuple, x => R.static? Provided.value "fromTupleArray" [x] []
  | array (array element), x => do
    let items ← x.items?
    let encoded ← items.mapM ((array element).encoded? R)
    R.static? Provided.value "fromArray" [.list encoded] []

/-- The value that the conversion of a decoded value makes. -/
def decoded? (R : Runtime α) (structName : Option String) : Shape → Value α → Option (Value α)
  | scalar s, y => R.method? y ("to" ++ s.decodedKind) [] []
  | tuple, y => R.method? y "toTuple" [] []
  | array (scalar s), y => R.method? y ("to" ++ s.decodedKind ++ "Array") [] []
  | array tuple, y => R.method? y "toTupleArray" [] [tupleClass structName]
  | array (array element), y => do
    let values ← R.method? y "toArray" [] []
    let items ← values.items?
    return .list (← items.mapM ((array element).decoded? R structName))

variable {R : Runtime α} {make : Maker α}

/-- The local for an element is bound to it. -/
theorem eval_element (frame : Frame α) (item : Value α) :
  (Expr.name elementName).eval R make (frame.bind elementName item) = pure item
  := by
  rw [Expr.eval, Frame.bind, List.lookup_cons_self, Run.ofOption_some]

/-- The value of a conversion to a value that can be encoded. -/
theorem eval_encode (structName : Option String) (shape : Shape) (frame : Frame α) (v : Expr) :
  (shape.encode structName v).eval R make frame
    = v.eval R make frame >>= fun x => Run.ofOption (shape.encoded? R x)
  := by
  induction shape generalizing frame v with
  | scalar s => apply Expr.eval_staticCall_singleton
  | tuple => apply Expr.eval_staticCall_singleton
  | array element ih =>
      cases element with
      | scalar s => apply Expr.eval_staticCall_singleton
      | tuple => apply Expr.eval_staticCall_singleton
      | array inner =>
          have items (item : Value α) : ((array inner).encode structName (.name elementName)).eval
              R make (frame.bind elementName item)
              = Run.ofOption ((array inner).encoded? R item) := by
            rw [ih, eval_element, pure_bind]
          change (Expr.staticCall _ _ [.call v mapMethod [.lambda ⟨elementName, _⟩ _ _] _] _).eval
            R make frame = _
          rw [Expr.eval_staticCall_singleton, Expr.eval_map]
          simp only [items, Run.mapM_ofOption, bind_assoc, pure_bind, encoded?, Run.ofOption_bind]

/-- The value of the conversion of a decoded value. -/
theorem eval_decode (structName : Option String) (shape : Shape) (frame : Frame α) (v : Expr) :
  (shape.decode structName v).eval R make frame
    = v.eval R make frame >>= fun y => Run.ofOption (shape.decoded? R structName y)
  := by
  induction shape generalizing frame v with
  | scalar s => apply Expr.eval_call_nil
  | tuple =>
      rw [decode]
      cases structClass? structName with
      | none => apply Expr.eval_call_nil
      | some name =>
          rw [Expr.eval]
          apply Expr.eval_call_nil
  | array element ih =>
      cases element with
      | scalar s => apply Expr.eval_call_nil
      | tuple => apply Expr.eval_call_nil
      | array inner =>
          have items (item : Value α) : ((array inner).decode structName (.name elementName)).eval
              R make (frame.bind elementName item)
              = Run.ofOption ((array inner).decoded? R structName item) := by
            rw [ih, eval_element, pure_bind]
          change (Expr.call (.call v _ [] _) mapMethod [.lambda ⟨elementName, _⟩ _ _] _).eval
            R make frame = _
          rw [Expr.eval_map, Expr.eval_call_nil]
          simp only [items, Run.mapM_ofOption, bind_assoc, decoded?, Run.ofOption_bind]
          rfl

end Shape

namespace Runtime

/-- What a conversion makes of a value, where it stands for the object itself. -/
def convert? (R : Runtime α) (conversion : Except Fault (Expr → Expr)) (x : Value α) :
    Option (Value α) :=
  match conversion with
  | .ok convert => ((convert .self).eval R makeNothing ⟨x, []⟩ {}).map (·.1)
  | .error _ => none

/-- A conversion makes of a value what it makes of the value of any expression. -/
theorem convert?_ok {R : Runtime α} {convert : Expr → Expr} {f : Value α → Option (Value α)}
    (h : ∀ frame v, (convert v).eval R makeNothing frame
      = v.eval R makeNothing frame >>= fun x => Run.ofOption (f x)) :
  R.convert? (.ok convert) = f
  := by
  funext x
  rw [convert?, h, Expr.eval, pure_bind, Run.ofOption]
  cases f x <;> rfl

variable (R : Runtime α) (structName : Option String) {text : String} {shape : Shape}

theorem convert?_encode (h : (TypeExpr.ofString text).shape? = .ok shape) :
  R.convert? (TypeText.encode? structName text) = shape.encoded? R
  := by
  rw [TypeText.encode?_of_shape? h]
  apply convert?_ok
  apply Shape.eval_encode

theorem convert?_decode (h : (TypeExpr.ofString text).shape? = .ok shape) :
  R.convert? (TypeText.decode? structName text) = shape.decoded? R structName
  := by
  rw [TypeText.decode?_of_shape? h]
  apply convert?_ok
  apply Shape.eval_decode

end Runtime

end ContractBindings
