import ContractBindings.Proofs.Code.WellFormed
import ContractBindings.Section.Contract
import ContractBindings.Types.Conversion

/-!
# Conversions are well-formed

The types that represent shapes are nestings of arrays around standard names and the class of
the tuple.  So, over any names among which these are, the conversions in both directions are
well-formed wherever the value that they convert is.
-/

namespace ContractBindings

/-- The names of types that are neither imported nor those of generated classes. -/
def builtinNames : List String :=
  ["boolean", "string", Function.mapType]

/-- The names that types are made from besides those of generated classes. -/
def standardNames : List String :=
  Provided.names ++ builtinNames

theorem Scalar.codeType_mem_standardNames (s : Scalar) :
  s.codeType ∈ standardNames
  := by
  cases s <;> simp [codeType, standardNames, builtinNames, Provided.names]

section

variable {names : List String} {structName : Option String}
  (standard : standardNames ⊆ names) (known : tupleClass structName ∈ names)

include standard

theorem resolves_value :
  Resolves names Provided.value
  := by
  apply Resolves.of_mem
  apply standard
  decide

include known

namespace Shape

theorem resolves_codeType (shape : Shape) :
  Resolves names (shape.codeType structName)
  := by
  induction shape with
  | scalar s =>
      apply Resolves.of_mem
      apply standard s.codeType_mem_standardNames
  | tuple => apply Resolves.of_mem known
  | array element ih => apply Resolves.array ih

/-- The conversion of a decoded value is well-formed where the value is. -/
theorem wellFormed_decode (shape : Shape) {bound : List String} {v : Expr}
    (h : v.WellFormed names bound) :
  (shape.decode structName v).WellFormed names bound
  := by
  induction shape generalizing bound v with
  | scalar s => apply h.plainCall
  | tuple =>
      rw [decode]
      cases named : structClass? structName with
      | none => apply h.plainCall
      | some name =>
          apply Expr.WellFormed.cast h.plainCall
          apply Resolves.of_mem
          simpa [tupleClass, named] using known
  | array element ih =>
      have type := resolves_codeType standard known element
      cases element with
      | scalar s => apply h.plainCall
      | tuple =>
          apply Expr.WellFormed.call h (List.forall_mem_nil _)
          rw [List.forall_mem_singleton]
          apply type
      | array inner =>
          apply Expr.WellFormed.call h.plainCall
          · rw [List.forall_mem_singleton]
            apply Expr.WellFormed.lambda (resolves_value standard) type
            apply ih
            apply Expr.WellFormed.name List.mem_cons_self
          · rw [List.forall_mem_singleton]
            apply type

/-- The conversion of a represented value is well-formed where the value is. -/
theorem wellFormed_encode (shape : Shape) {bound : List String} {v : Expr}
    (h : v.WellFormed names bound) :
  (shape.encode structName v).WellFormed names bound
  := by
  have value := resolves_value standard
  induction shape generalizing bound v with
  | scalar s => apply h.plainStaticCall value
  | tuple => apply h.plainStaticCall value
  | array element ih =>
      have type := resolves_codeType standard known element
      cases element with
      | scalar s => apply h.plainStaticCall value
      | tuple => apply h.plainStaticCall value
      | array inner =>
          apply Expr.WellFormed.plainStaticCall _ value
          apply Expr.WellFormed.call h
          · rw [List.forall_mem_singleton]
            apply Expr.WellFormed.lambda type value
            apply ih
            apply Expr.WellFormed.name List.mem_cons_self
          · rw [List.forall_mem_singleton]
            apply value

end Shape

end

end ContractBindings
