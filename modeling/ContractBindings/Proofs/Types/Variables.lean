import ContractBindings.Proofs.Code.Variables
import ContractBindings.Types.Conversion

/-!
# Variables of conversions

A conversion is made of calls of methods and casts, of functions on the elements of an array, and,
for encoding, of static calls of the provided class of values.  So what is found in a conversion of
a value, but not at calls and casts, is found in the value, at one of these functions or at one of
these static calls.  The only variable that a conversion declares is the local for an element, and
the only class that it uses is that of values.
-/

namespace ContractBindings

open ContractBindings.Expr

variable {α : Type} {found? : Expr → Option α}

/-- Nothing is found at names, at calls of methods and at casts. -/
structure Expr.Skips (found? : Expr → Option α) : Prop where
  name (id : String) : found? (.name id) = none
  call (receiver : Expr) (method : String) (arguments : List Expr) (types : List String) :
    found? (.call receiver method arguments types) = none
  cast (value : Expr) (type : String) : found? (.cast value type) = none

theorem Expr.skips_parameter? :
  Skips parameter?
  := by
  constructor <;> intros <;> rfl

theorem Expr.skips_class? :
  Skips class?
  := by
  constructor <;> intros <;> rfl

section

variable {x : α}

/-- Nothing is found in a name. -/
theorem Expr.Skips.notMem_collect_name (skips : Skips found?) (id : String) :
  x ∉ (Expr.name id).collect found?
  := by
  rw [collect, skips.name]
  apply List.not_mem_nil

/-- What is found in a call with a function is found in the receiver, at the function or in its
body. -/
theorem Expr.Skips.mem_collect_mapped (skips : Skips found?) {receiver body : Expr}
    {method result : String} {parameter : Variable} {types : List String}
    (h : x ∈ (Expr.call receiver method [.lambda parameter result body] types).collect found?) :
  x ∈ receiver.collect found? ∨ found? (.lambda parameter result body) = some x
    ∨ x ∈ body.collect found?
  := by
  simpa only [collect, collectAll, skips.call, Option.toList_none, List.nil_append,
    List.append_nil, List.mem_append, Option.mem_toList] using h

/-- What is found in a static call with one argument is found there or in the argument. -/
theorem Expr.mem_collect_staticCall {owner method : String} {e : Expr}
    (h : x ∈ (staticCall owner method [e] []).collect found?) :
  found? (.staticCall owner method [e] []) = some x ∨ x ∈ e.collect found?
  := by
  simpa only [collect, collectAll, List.append_nil, List.mem_append, Option.mem_toList] using h

end

namespace Shape

variable (structName : Option String)

/-- What is found in a conversion from decoded values. -/
theorem collect_decode_of_mem (skips : Skips found?) (shape : Shape) {v : Expr} {x : α}
    (h : x ∈ (shape.decode structName v).collect found?) :
  x ∈ v.collect found?
    ∨ ∃ type body, found? (.lambda ⟨elementName, Provided.value⟩ type body) = some x
  := by
  induction shape generalizing v with
  | scalar s =>
      left
      simpa [decode, collect, collectAll, skips.call] using h
  | tuple =>
      left
      rw [decode] at h
      split at h <;> simpa [collect, collectAll, skips.call, skips.cast] using h
  | array element ih =>
      cases element with
      | scalar s =>
          left
          simpa [decode, collect, collectAll, skips.call] using h
      | tuple =>
          left
          simpa [decode, collect, collectAll, skips.call] using h
      | array inner =>
          obtain outside | here | inside := skips.mem_collect_mapped h
          · left
            simpa [collect, collectAll, skips.call] using outside
          · right
            exact ⟨_, _, here⟩
          · -- The body converts a name, at which nothing is found.
            right
            apply (ih inside).resolve_left (skips.notMem_collect_name _)

/-- Encoding is a static call of the provided class of values. -/
theorem exists_encode_eq (shape : Shape) (v : Expr) :
  ∃ method arguments, shape.encode structName v = .staticCall Provided.value method arguments []
  := by
  cases shape with
  | scalar s => exact ⟨_, _, rfl⟩
  | tuple => exact ⟨_, _, rfl⟩
  | array element => cases element <;> exact ⟨_, _, rfl⟩

/-- What is found in a conversion for encoding. -/
theorem collect_encode_of_mem (skips : Skips found?) (shape : Shape) {v : Expr} {x : α}
    (h : x ∈ (shape.encode structName v).collect found?) :
  x ∈ v.collect found?
    ∨ (∃ type body, found? (.lambda ⟨elementName, type⟩ Provided.value body) = some x)
    ∨ ∃ method arguments, found? (.staticCall Provided.value method arguments []) = some x
  := by
  have made {method : String} {e : Expr}
      (h : x ∈ (staticCall Provided.value method [e] []).collect found?) :
      x ∈ e.collect found?
        ∨ ∃ method arguments, found? (.staticCall Provided.value method arguments []) = some x :=
    (mem_collect_staticCall h).symm.imp_right fun here => ⟨_, _, here⟩
  induction shape generalizing v with
  | scalar s => apply (made h).imp_right .inr
  | tuple => apply (made h).imp_right .inr
  | array element ih =>
      cases element with
      | scalar s => apply (made h).imp_right .inr
      | tuple => apply (made h).imp_right .inr
      | array inner =>
          obtain mapped | here := made h
          · obtain outside | here | inside := skips.mem_collect_mapped mapped
            · left
              apply outside
            · right
              left
              exact ⟨_, _, here⟩
            · -- The body converts a name, at which nothing is found.
              right
              apply (ih inside).resolve_left (skips.notMem_collect_name _)
          · right
            right
            apply here

section

variable {v : Expr} (shape : Shape)

/-- Decoding declares only the local for an element. -/
theorem eq_elementName_of_mem_decode (bare : v.collect parameter? = []) {name : String}
    (h : name ∈ (shape.decode structName v).collect parameter?) :
  name = elementName
  := by
  obtain inside | ⟨type, body, here⟩ := collect_decode_of_mem structName skips_parameter? shape h
  · rw [bare] at inside
    cases inside
  · apply (Option.some.inj here).symm

/-- Decoding uses no class. -/
theorem usedClasses_decode (bare : v.collect class? = []) :
  (shape.decode structName v).collect class? = []
  := by
  apply List.eq_nil_iff_forall_not_mem.mpr
  intro name h
  obtain inside | ⟨type, body, ⟨⟩⟩ := collect_decode_of_mem structName skips_class? shape h
  rw [bare] at inside
  cases inside

/-- Encoding declares only the local for an element. -/
theorem eq_elementName_of_mem_encode (bare : v.collect parameter? = []) {name : String}
    (h : name ∈ (shape.encode structName v).collect parameter?) :
  name = elementName
  := by
  obtain inside | ⟨type, body, here⟩ | ⟨method, arguments, ⟨⟩⟩ :=
    collect_encode_of_mem structName skips_parameter? shape h
  · rw [bare] at inside
    cases inside
  · apply (Option.some.inj here).symm

/-- Encoding uses the provided class of values and no other. -/
theorem mem_usedClasses_encode_iff (bare : v.collect class? = []) (name : String) :
  name ∈ (shape.encode structName v).collect class? ↔ name = Provided.value
  := by
  constructor
  · intro h
    obtain inside | ⟨type, body, ⟨⟩⟩ | ⟨method, arguments, here⟩ :=
      collect_encode_of_mem structName skips_class? shape h
    · rw [bare] at inside
      cases inside
    · apply (Option.some.inj here).symm
  · rintro rfl
    obtain ⟨method, arguments, made⟩ := exists_encode_eq structName shape v
    rw [made, collect]
    apply List.mem_append_left
    apply List.mem_singleton_self

end

end Shape

end ContractBindings
