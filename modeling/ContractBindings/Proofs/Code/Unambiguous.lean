import ContractBindings.Proofs.Code.Reader

/-!
# Expressions of one text

The text of an expression tells what the expression is read as.  So the texts of two expressions
are the same exactly when they are read as the same, and expressions that cast no functions are
told by their texts, apart from calls on names.

A cast of a function is not told from a function whose body is a cast: the left side of an access
stands in parentheses when it is a function, the value of a cast does not.
-/

namespace ContractBindings.Expr

/-! ## Calls on names -/

mutual

/-- The expression with calls on expressions in place of calls on names. -/
def asCalls : Expr → Expr
  | .name id => .name id
  | .self => .self
  | .literal value => .literal value
  | .member object field => .member object.asCalls field
  | .index values position => .index values.asCalls position.asCalls
  | .call receiver method arguments types =>
    .call receiver.asCalls method (asCallsAll arguments) types
  | .staticCall owner method arguments types =>
    .call (.name owner) method (asCallsAll arguments) types
  | .superCall method arguments => .superCall method (asCallsAll arguments)
  | .new type arguments => .new type (asCallsAll arguments)
  | .cast value type => .cast value.asCalls type
  | .list elements => .list (asCallsAll elements)
  | .lambda parameter type body => .lambda parameter type body.asCalls

/-- Expressions with calls on expressions in place of calls on names. -/
def asCallsAll : List Expr → List Expr
  | [] => []
  | e :: es => e.asCalls :: asCallsAll es

end

/-! ## Casts of functions -/

/-- Whether an expression is a function. -/
def isFunction : Expr → Bool
  | .lambda _ _ _ => true
  | _ => false

mutual

/-- An expression none of whose casts is one of a function. -/
def CastsNoFunction : Expr → Prop
  | .name _ => True
  | .self => True
  | .literal _ => True
  | .member object _ => object.CastsNoFunction
  | .index values position => values.CastsNoFunction ∧ position.CastsNoFunction
  | .call receiver _ arguments _ => receiver.CastsNoFunction ∧ CastNoFunction arguments
  | .staticCall _ _ arguments _ => CastNoFunction arguments
  | .superCall _ arguments => CastNoFunction arguments
  | .new _ arguments => CastNoFunction arguments
  | .cast value _ => value.isFunction = false ∧ value.CastsNoFunction
  | .list elements => CastNoFunction elements
  | .lambda _ _ body => body.CastsNoFunction

/-- Expressions none of whose casts is one of a function. -/
def CastNoFunction : List Expr → Prop
  | [] => True
  | e :: es => e.CastsNoFunction ∧ CastNoFunction es

end

theorem castWithin_of_not_isFunction {e : Expr} (h : e.isFunction = false) (type : String) :
  e.castWithin type = .cast e type
  := by
  cases e with
  | lambda parameter result body => cases h
  | _ => rfl

theorem isFunction_asCalls (e : Expr) :
  e.asCalls.isFunction = e.isFunction
  := by
  cases e <;> rfl

mutual

/-- An expression that casts no functions is read as it is, apart from calls on names. -/
theorem asRead_eq_asCalls {e : Expr} (h : e.CastsNoFunction) :
  e.asRead = e.asCalls
  := by
  cases e with
  | name id => rfl
  | self => rfl
  | literal value => rfl
  | member object field =>
      have inner : object.CastsNoFunction := h
      rw [asRead, asCalls, asRead_eq_asCalls inner]
  | index values position => rw [asRead, asCalls, asRead_eq_asCalls h.1, asRead_eq_asCalls h.2]
  | call receiver method arguments types =>
      rw [asRead, asCalls, asRead_eq_asCalls h.1, asReadAll_eq_asCallsAll h.2]
  | staticCall owner method arguments types => rw [asRead, asCalls, asReadAll_eq_asCallsAll h]
  | superCall method arguments => rw [asRead, asCalls, asReadAll_eq_asCallsAll h]
  | new type arguments => rw [asRead, asCalls, asReadAll_eq_asCallsAll h]
  | cast value type =>
      obtain ⟨noFunction, inner⟩ := h
      rw [asRead, asCalls, asRead_eq_asCalls inner]
      apply castWithin_of_not_isFunction
      rw [isFunction_asCalls, noFunction]
  | list elements => rw [asRead, asCalls, asReadAll_eq_asCallsAll h]
  | lambda parameter type body =>
      have inner : body.CastsNoFunction := h
      rw [asRead, asCalls, asRead_eq_asCalls inner]

theorem asReadAll_eq_asCallsAll {es : List Expr} (h : CastNoFunction es) :
  asReadAll es = asCallsAll es
  := by
  obtain _ | ⟨e, es⟩ := es
  · rfl
  · rw [asReadAll, asCallsAll, asRead_eq_asCalls h.1, asReadAll_eq_asCallsAll h.2]

end

/-! ## What is read has the same text -/

theorem render_castWithin (e : Expr) (type : String) :
  (e.castWithin type).render = e.render ++ " as " ++ type
  := by
  fun_induction castWithin e type with
  | case1 parameter result body type ih => simp [render, ih, String.append_assoc]
  | case2 e type _ => rw [render]

theorem operand_asRead (e : Expr) (text : String) :
  e.asRead.operand text = e.operand text
  := by
  rw [operand, operand, isLoose_asRead]

mutual

/-- An expression has the text of what it is read as. -/
theorem render_asRead (e : Expr) :
  e.asRead.render = e.render
  := by
  cases e with
  | name id => rfl
  | self => rfl
  | literal value => rfl
  | member object field => rw [asRead, render, render, operand_asRead, render_asRead object]
  | index values position =>
      rw [asRead, render, render, operand_asRead, render_asRead values, render_asRead position]
  | call receiver method arguments types =>
      rw [asRead, render, render, operand_asRead, render_asRead receiver,
        renderAll_asReadAll arguments]
  | staticCall owner method arguments types =>
      rw [asRead, render, render, renderAll_asReadAll arguments]
      rfl
  | superCall method arguments => rw [asRead, render, render, renderAll_asReadAll arguments]
  | new type arguments => rw [asRead, render, render, renderAll_asReadAll arguments]
  | cast value type => rw [asRead, render_castWithin, render_asRead value, render]
  | list elements => rw [asRead, render, render, renderAll_asReadAll elements]
  | lambda parameter type body => rw [asRead, render, render, render_asRead body]

theorem renderAll_asReadAll (es : List Expr) :
  renderAll (asReadAll es) = renderAll es
  := by
  obtain _ | ⟨e, es⟩ := es
  · rfl
  · rw [asReadAll, renderAll, renderAll, render_asRead e, renderAll_asReadAll es]

end

/-! ## Texts tell expressions apart -/

/-- Plain expressions have the same text exactly when they are read as the same expression.  If
they cast no functions then they are the same up to calls on names. -/
theorem render_eq_iff {e e' : Expr} (plain : e.Plain) (plain' : e'.Plain) :
  (e.render = e'.render ↔ e.asRead = e'.asRead)
    ∧ (e.CastsNoFunction → e'.CastsNoFunction →
      (e.render = e'.render ↔ e.asCalls = e'.asCalls))
  := by
  have told : e.render = e'.render ↔ e.asRead = e'.asRead := by
    constructor
    · intro h
      rw [← written_tokens, ← written_tokens] at h
      have same : e.tokens = e'.tokens := by
        apply Token.eq_of_written_eq _ _ h
        · apply legible_tokens fun word mem => (plain word mem).1
        · apply legible_tokens fun word mem => (plain' word mem).1
      apply Option.some.inj
      rw [← Reader.read_tokens fun word mem => (plain word mem).2, same,
        Reader.read_tokens fun word mem => (plain' word mem).2]
    · intro h
      rw [← render_asRead e, h, render_asRead]
  use told
  intro noFunction noFunction'
  rw [told, asRead_eq_asCalls noFunction, asRead_eq_asCalls noFunction']

/-- A function whose body is a cast. -/
def castBody : Expr :=
  .lambda ⟨"value", "Value"⟩ "Token" (.cast (.name "value") "Token")

/-- A call on a name that is an expression. -/
def nameCall : Expr :=
  .call (.name "Values") "map" [.list [], castBody] ["Value", "Token"]

/-- A call on a name. -/
def ownerCall : Expr :=
  .staticCall "Values" "map" [.list [], castBody] ["Value", "Token"]

theorem render_eq_iff_ownerCall :
  (nameCall.Plain ∧ nameCall.CastsNoFunction) ∧ (ownerCall.Plain ∧ ownerCall.CastsNoFunction)
    ∧ nameCall.render = ownerCall.render
  := by
  have plain : nameCall.Plain := by decide +kernel
  have plain' : ownerCall.Plain := by decide +kernel
  have noFunction : nameCall.CastsNoFunction :=
    ⟨trivial, trivial, ⟨rfl, trivial⟩, trivial⟩
  use ⟨plain, noFunction⟩, ⟨plain', noFunction.2⟩
  apply ((render_eq_iff plain plain').2 noFunction noFunction.2).mpr
  rfl

/-- A cast of a function. -/
def castFunction : Expr :=
  .cast (.lambda ⟨"value", "Value"⟩ "Token" (.name "value")) "Token"

/-- Two plain expressions of one text that are not the same up to calls on names. -/
theorem asCalls_castFunction_ne :
  castFunction.Plain ∧ castBody.Plain ∧ castFunction.render = castBody.render
    ∧ castFunction.asCalls ≠ castBody.asCalls
  := by
  refine ⟨by decide +kernel, by decide +kernel, ?_, ?_⟩
  · simp [castFunction, castBody, render, String.append_assoc]
  · rintro ⟨⟩

end ContractBindings.Expr
