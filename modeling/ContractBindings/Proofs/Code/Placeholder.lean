import ContractBindings.Proofs.Code.Variables

/-!
# Placeholders

A placeholder is a name that stands in an expression for a value which is put in later.
`Expr.replace` puts an expression in its place, wherever it stands and whatever is declared
there.  So nothing goes wrong only where the placeholder stands outside of all functions, and the
value is evaluated once only where the placeholder stands once.

`Expr.Hygienic` says of a way to make an expression from a value that it is like this for all
placeholders, apart from the local that its functions use, and that each of these functions speaks
of nothing but its own parameter.  `Expr.Passage` are the ways that go on from a value by calls and
casts, and by mapping functions that are of this kind again.  They are hygienic.
-/

namespace ContractBindings.Expr

/-! ## Names in expressions -/

mutual

/-- The expression with a value in all places of a placeholder. -/
def replace (hole : String) (value : Expr) : Expr → Expr
  | .name id => if id = hole then value else .name id
  | .self => .self
  | .literal l => .literal l
  | .member object field => .member (replace hole value object) field
  | .index values position => .index (replace hole value values) (replace hole value position)
  | .call receiver method arguments types =>
    .call (replace hole value receiver) method (replaceAll hole value arguments) types
  | .staticCall owner method arguments types =>
    .staticCall owner method (replaceAll hole value arguments) types
  | .superCall method arguments => .superCall method (replaceAll hole value arguments)
  | .new type arguments => .new type (replaceAll hole value arguments)
  | .cast e type => .cast (replace hole value e) type
  | .list elements => .list (replaceAll hole value elements)
  | .lambda parameter type body => .lambda parameter type (replace hole value body)

/-- The same for several expressions. -/
def replaceAll (hole : String) (value : Expr) : List Expr → List Expr
  | [] => []
  | e :: es => replace hole value e :: replaceAll hole value es

end

mutual

/-- The names in an expression that stand outside of all functions. -/
def outerNames : Expr → List String
  | .name id => [id]
  | .self => []
  | .literal _ => []
  | .member object _ => object.outerNames
  | .index values position => values.outerNames ++ position.outerNames
  | .call receiver _ arguments _ => receiver.outerNames ++ outerNamesAll arguments
  | .staticCall _ _ arguments _ => outerNamesAll arguments
  | .superCall _ arguments => outerNamesAll arguments
  | .new _ arguments => outerNamesAll arguments
  | .cast e _ => e.outerNames
  | .list elements => outerNamesAll elements
  | .lambda _ _ _ => []

/-- The same for several expressions. -/
def outerNamesAll : List Expr → List String
  | [] => []
  | e :: es => e.outerNames ++ outerNamesAll es

end

mutual

/-- The names in an expression that are not parameters of functions around them. -/
def freeNames : Expr → List String
  | .name id => [id]
  | .self => []
  | .literal _ => []
  | .member object _ => object.freeNames
  | .index values position => values.freeNames ++ position.freeNames
  | .call receiver _ arguments _ => receiver.freeNames ++ freeNamesAll arguments
  | .staticCall _ _ arguments _ => freeNamesAll arguments
  | .superCall _ arguments => freeNamesAll arguments
  | .new _ arguments => freeNamesAll arguments
  | .cast e _ => e.freeNames
  | .list elements => freeNamesAll elements
  | .lambda parameter _ body => body.freeNames.filter (· ≠ parameter.name)

/-- The same for several expressions. -/
def freeNamesAll : List Expr → List String
  | [] => []
  | e :: es => e.freeNames ++ freeNamesAll es

end

/-- The name that an expression is. -/
def name? : Expr → Option String
  | .name id => some id
  | _ => none

/-- The name of the parameter of the function that an expression is, with the body. -/
def function? : Expr → Option (String × Expr)
  | .lambda ⟨parameter, _⟩ _ body => some (parameter, body)
  | _ => none

/-- A way to make an expression from a value that uses the value once and captures nothing: it puts
the value in the place of a placeholder, which may be any name but the given local, stands once and
stands outside of all functions; each function that it brings along speaks of its own parameter
only; and what is free in the value stays so. -/
structure Hygienic (inner : String) (make : Expr → Expr) : Prop where
  replaced {hole : String} (apart : hole ≠ inner) (value : Expr) :
    make value = replace hole value (make (.name hole))
  once {hole : String} (apart : hole ≠ inner) :
    ((make (.name hole)).collect name?).count hole = 1
  outside {hole : String} (apart : hole ≠ inner) : (make (.name hole)).outerNames.count hole = 1
  closed {hole : String} (apart : hole ≠ inner) :
    ∀ f ∈ (make (.name hole)).collect function?, ∀ id, id ∈ f.2.freeNames ↔ id = f.1
  free (value : Expr) : (make value).freeNames = value.freeNames

/-! ## Passages -/

/-- The ways to go on from a value: by calls of its methods, by casts, by static calls that take it
alone, and by calls that take a function of this kind of the given local. -/
inductive Passage (inner : String) : (Expr → Expr) → Prop where
  | stay : Passage inner fun v => v
  | call {make} (before : Passage inner make) (method : String) (types : List String) :
    Passage inner fun v => .call (make v) method [] types
  | cast {make} (before : Passage inner make) (type : String) :
    Passage inner fun v => .cast (make v) type
  | staticCall {make} (before : Passage inner make) (owner method : String) :
    Passage inner fun v => .staticCall owner method [make v] []
  | map {make each} (before : Passage inner make) (inside : Passage inner each) (method : String)
    (type result : String) (types : List String) :
    Passage inner fun v =>
      .call (make v) method [.lambda ⟨inner, type⟩ result (each (.name inner))] types

namespace Passage

variable {inner : String} {make : Expr → Expr} (passage : Passage inner make)

include passage

/-- A placeholder is replaced in the value that a passage starts from. -/
theorem replace_eq {hole : String} (apart : hole ≠ inner) (value e : Expr) :
  replace hole value (make e) = make (replace hole value e)
  := by
  induction passage generalizing e with
  | stay => rfl
  | call _ method types ih => rw [replace, ih, replaceAll]
  | cast _ type ih => rw [replace, ih]
  | staticCall _ owner method ih => rw [replace, replaceAll, replaceAll, ih]
  | map _ _ method type result types ih each =>
      rw [replace, ih, replaceAll, replaceAll, replace, each, replace, if_neg apart.symm]

/-- A name stands in what a passage makes as often as in the value that it starts from. -/
theorem count_names {hole : String} (apart : hole ≠ inner) (e : Expr) :
  ((make e).collect name?).count hole = (e.collect name?).count hole
  := by
  induction passage generalizing e with
  | stay => rfl
  | call _ method types ih => simp [collect, collectAll, name?, ih]
  | cast _ type ih => simp [collect, name?, ih]
  | staticCall _ owner method ih => simp [collect, collectAll, name?, ih]
  | map _ _ method type result types ih each =>
      simp [collect, collectAll, name?, ih, each, apart.symm]

/-- A passage has the names of its value outside of functions, and no others. -/
theorem outerNames_eq (e : Expr) :
  (make e).outerNames = e.outerNames
  := by
  induction passage generalizing e with
  | stay => rfl
  | call _ method types ih => simp [outerNames, outerNamesAll, ih]
  | cast _ type ih => simp [outerNames, ih]
  | staticCall _ owner method ih => simp [outerNames, outerNamesAll, ih]
  | map _ _ method type result types ih _ => simp [outerNames, outerNamesAll, ih]

/-- The free names of a passage are those of its value: its functions have none. -/
theorem freeNames_eq (e : Expr) :
  (make e).freeNames = e.freeNames
  := by
  induction passage generalizing e with
  | stay => rfl
  | call _ method types ih => simp [freeNames, freeNamesAll, ih]
  | cast _ type ih => simp [freeNames, ih]
  | staticCall _ owner method ih => simp [freeNames, freeNamesAll, ih]
  | map _ _ method type result types ih each => simp [freeNames, freeNamesAll, ih, each]

/-- A function in a passage is one of its value, or speaks of its own parameter only. -/
theorem freeNames_of_mem_functions {e : Expr} {f : String × Expr}
    (h : f ∈ (make e).collect function?) :
  f ∈ e.collect function? ∨ f.2.freeNames = [f.1]
  := by
  induction passage generalizing e with
  | stay =>
      left
      apply h
  | call _ method types ih =>
      apply ih
      simpa [collect, collectAll, function?] using h
  | cast _ type ih =>
      apply ih
      simpa [collect, function?] using h
  | staticCall _ owner method ih =>
      apply ih
      simpa [collect, collectAll, function?] using h
  | map _ inside method type result types ih each =>
      simp only [collect, collectAll, function?, Option.toList_none, Option.toList_some,
        List.nil_append, List.append_nil, List.mem_append, List.mem_singleton] at h
      obtain before | rfl | there := h
      · apply ih before
      · right
        rw [inside.freeNames_eq, freeNames]
      · -- The function starts from its parameter, in which there is no function.
        right
        apply (each there).resolve_left List.not_mem_nil

/-- Passages use their value once and capture nothing. -/
theorem hygienic :
  Hygienic inner make
  where
  replaced apart value := by
    rw [passage.replace_eq apart, replace, if_pos rfl]
  once apart := by
    rw [passage.count_names apart]
    apply List.count_singleton_self
  outside apart := by
    rw [passage.outerNames_eq]
    apply List.count_singleton_self
  closed apart := by
    intro f there id
    have closed := (passage.freeNames_of_mem_functions there).resolve_left List.not_mem_nil
    rw [closed, List.mem_singleton]
  free := passage.freeNames_eq

end Passage

end ContractBindings.Expr
