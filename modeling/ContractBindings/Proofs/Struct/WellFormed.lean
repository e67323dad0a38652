import ContractBindings.Proofs.Types.WellFormed
import ContractBindings.Struct.Basic

/-!
# Structs are well-formed

The class of a tuple is named where a slot is used and once more where its struct is made.  Both
spell the same name, so over any names that contain the standard ones and those of the structs
of some slots, the getters of these slots and the structs are well-formed.
-/

namespace ContractBindings

theorem Struct.className_ne_empty (stem field : String) :
  className stem field ≠ ""
  := by
  simp [className]

namespace Slot

/-- The class that represents the tuples of a slot is that of its struct. -/
theorem tupleClass_structName? (stem : String) (s : Slot) :
  tupleClass (s.structName? stem)
    = if s.shape.isTuple then Struct.className stem s.name else Provided.tuple
  := by
  rw [structName?]
  split
  · simp [tupleClass, structClass?, Option.filter, Struct.className_ne_empty]
  · rfl

/-- The struct of a slot comes first among its structs. -/
theorem structs_of_isTuple {s : Slot} (h : s.shape.isTuple) (stem : String) :
  s.structs stem = Struct.classes stem s.name s.fields
  := by
  obtain ⟨name, type, indexed, shape, fields⟩ := s
  rw [structs, if_pos h]
  rfl

end Slot

/-- A value is read from a source without any local. -/
theorem Source.wellFormed_valueAt (names bound : List String) (source : Source) (position : Int) :
  (source.valueAt position).WellFormed names bound
  := by
  cases source with
  | component => apply Expr.WellFormed.index .self .literal
  | recorded reference list =>
      apply Expr.WellFormed.member
      apply Expr.WellFormed.index _ .literal
      apply Expr.WellFormed.member
      apply Expr.WellFormed.member .self

/-- A method without parameters that only returns a value. -/
theorem Method.wellFormed_of_give {names : List String} {type name : String} {e : Expr}
    {kind : MethodKind} (resolved : Resolves names type) (h : e.WellFormed names []) :
  WellFormed names { name := name, type := some type, body := [.give e], kind := kind }
  := by
  constructor
  · simpa [declaredTypes] using resolved
  · apply Stmt.WellFormed.give h .nil
  · simp [Stmt.declared?]

namespace Slot

section

variable {names : List String} (standard : standardNames ⊆ names)

include standard

/-- The class of a slot is known where its structs are. -/
theorem tupleClass_mem {stem : String} {s : Slot} (known : ∀ c ∈ s.structs stem, c.name ∈ names) :
  tupleClass (s.structName? stem) ∈ names
  := by
  rw [tupleClass_structName?]
  by_cases tuple : s.shape.isTuple
  · rw [structs_of_isTuple tuple, Struct.classes, List.forall_mem_cons] at known
    rw [if_pos tuple]
    apply known.1
  · rw [if_neg tuple]
    apply standard
    decide

variable {stem : String} {slots : List Slot} (known : ∀ c ∈ structsAll stem slots, c.name ∈ names)

include known

/-- The classes of slots that stand side by side are known where all their structs are. -/
theorem tupleClass_mem_of_mem {s : Slot} (h : s ∈ slots) :
  tupleClass (s.structName? stem) ∈ names
  := by
  apply tupleClass_mem standard
  intro c inside
  apply known
  rw [structsAll_eq_flatMap, List.mem_flatMap]
  use s, h

theorem resolves_codeType {s : Slot} (h : s ∈ slots) :
  Resolves names (s.codeType stem)
  := by
  apply Shape.resolves_codeType standard
  apply tupleClass_mem_of_mem standard known h

theorem wellFormed_decode {s : Slot} (h : s ∈ slots) {bound : List String} {v : Expr}
    (value : v.WellFormed names bound) :
  (s.decode stem v).WellFormed names bound
  := by
  apply Shape.wellFormed_decode standard _ _ value
  apply tupleClass_mem_of_mem standard known h

theorem wellFormed_encode {s : Slot} (h : s ∈ slots) {bound : List String} {v : Expr}
    (value : v.WellFormed names bound) :
  (s.encode stem v).WellFormed names bound
  := by
  apply Shape.wellFormed_encode standard _ _ value
  apply tupleClass_mem_of_mem standard known h

/-- The getters of slots are well-formed over the names of their structs. -/
theorem wellFormed_getters (source : Source) :
  ∀ m ∈ getters source stem slots, m.WellFormed names
  := by
  intro m member
  obtain ⟨position, bound, rfl⟩ := List.mem_mapIdx.mp member
  apply Method.wellFormed_of_give
  · apply resolves_codeType standard known (List.getElem_mem bound)
  · apply wellFormed_decode standard known (List.getElem_mem bound)
    apply Source.wellFormed_valueAt

end

mutual

/-- The structs of a slot are well-formed over their names. -/
theorem wellFormed_structs {names : List String} (standard : standardNames ⊆ names)
    {stem : String} {s : Slot} (known : ∀ c ∈ s.structs stem, c.name ∈ names) :
  ∀ c ∈ s.structs stem, c.WellFormed names
  := by
  obtain ⟨name, type, indexed, shape, fields⟩ := s
  rw [structs] at known ⊢
  by_cases tuple : shape.isTuple
  · rw [if_pos tuple, List.forall_mem_cons] at known ⊢
    constructor
    · constructor
      · simpa [Struct.classDef] using Resolves.of_mem (standard (by decide))
      · simp [Struct.classDef]
      · apply wellFormed_getters standard known.2
    · apply wellFormed_structsAll standard known.2
  · simp [tuple]

/-- The structs of slots are well-formed over their names. -/
theorem wellFormed_structsAll {names : List String} (standard : standardNames ⊆ names)
    {stem : String} {slots : List Slot} (known : ∀ c ∈ structsAll stem slots, c.name ∈ names) :
  ∀ c ∈ structsAll stem slots, c.WellFormed names
  := by
  cases slots with
  | nil => simp [structsAll]
  | cons s ss =>
      rw [structsAll, List.forall_mem_append] at known ⊢
      use wellFormed_structs standard known.1
      apply wellFormed_structsAll standard known.2

end

end Slot

end ContractBindings
