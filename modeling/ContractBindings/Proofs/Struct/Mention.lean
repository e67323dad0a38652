import ContractBindings.Proofs.Slot.Spoken
import ContractBindings.Proofs.Struct.WellFormed

/-!
# Structs are mentioned

The struct of a tuple is not only made but also put to use.  The class that represents the
tuples of a slot is named by the type of the slot, whatever arrays there are around them.  So
each struct of some slots is that of one of them, or else it is mentioned by the getter that
another struct has for the slot: by the struct of the tuple around it, whose name is shorter.
-/

namespace ContractBindings

/-- A name that is not empty is not empty when capitalized. -/
theorem Name.capitalize_ne_empty {name : String} (h : name ≠ "") :
  capitalize name ≠ ""
  := by
  rw [capitalize]
  split
  · next empty => exact absurd (String.toList_eq_nil_iff.mp empty) h
  · simp [Text.uppercase_ne_nil]

/-- A struct is not called like the struct around it. -/
theorem Struct.className_innerStem_ne {field : String} (h : field ≠ "") (stem outer : String) :
  className stem outer ≠ className (innerStem stem outer) field
  := by
  intro same
  rw [className, className, innerStem.eq_def _ field] at same
  have cut := (String.append_left_inj _).mp same
  apply Name.capitalize_ne_empty h
  apply String.append_eq_left_iff.mp cut.symm

/-- The type of a tuple, or of arrays of tuples, is made from the class of the tuple. -/
theorem Shape.nesting_codeType (structName : Option String) {shape : Shape} (h : shape.isTuple) :
  Nesting (tupleClass structName) (shape.codeType structName)
  := by
  induction shape with
  | scalar s => cases h
  | tuple => apply Nesting.root
  | array element ih => apply Nesting.array (ih h)

namespace Slot

/-- The class that represents the tuples of a slot is named by the type of the slot. -/
theorem nesting_codeType {stem name : String} {s : Slot} (h : s.structName? stem = some name) :
  Nesting name (s.codeType stem)
  := by
  obtain ⟨tuple, spelled⟩ := Option.ite_none_right_eq_some.mp h
  have nesting := Shape.nesting_codeType (s.structName? stem) tuple
  rw [tupleClass_structName?, if_pos tuple, Option.some.inj spelled] at nesting
  apply nesting

/-- The getter of a slot mentions the class of its tuples. -/
theorem mentions_of_getters (source : Source) {stem name : String} {slots : List Slot} {s : Slot}
    {c : ClassDef} (getters : getters source stem slots ⊆ c.methods) (h : s ∈ slots)
    (named : s.structName? stem = some name) :
  c.Mentions name
  := by
  obtain ⟨position, bound, rfl⟩ := List.mem_iff_getElem.mp h
  apply ClassDef.mentions_of_method (m := slots[position].getter source stem position)
  · apply getters
    apply List.mem_mapIdx.mpr
    use position, bound
  · apply List.mem_singleton_self
  · apply nesting_codeType named

mutual

/-- A struct of a slot is the struct of the slot itself, or another one mentions it. -/
theorem exists_mention_structs {stem : String} {s : Slot} (spoken : s.Spoken) :
  ∀ c ∈ s.structs stem, s.structName? stem = some c.name
    ∨ ∃ d ∈ s.structs stem, d.name ≠ c.name ∧ d.Mentions c.name
  := by
  obtain ⟨name, type, indexed, shape, fields⟩ := s
  intro c made
  by_cases tuple : shape.isTuple
  · rw [structs, if_pos tuple] at made ⊢
    obtain rfl | made := List.mem_cons.mp made
    · left
      apply if_pos tuple
    · right
      obtain ⟨s, inside, named⟩ | ⟨d, there, other, mentions⟩ := exists_mention spoken c made
      -- The struct of a field is mentioned by the struct around it, which has a getter for it.
      · use Struct.classDef stem name fields, List.mem_cons_self
        constructor
        · obtain ⟨-, spelled⟩ := Option.ite_none_right_eq_some.mp named
          rw [← Option.some.inj spelled]
          apply Struct.className_innerStem_ne
          apply ((spokenAll_iff _).mp spoken _ inside).1
        · apply mentions_of_getters .component (List.Subset.refl _) inside named
      · use d, List.mem_cons_of_mem _ there
  · rw [structs, if_neg tuple] at made
    cases made

/-- A struct of slots is the struct of one of them, or another one mentions it. -/
theorem exists_mention {stem : String} {slots : List Slot} (spoken : SpokenAll slots) :
  ∀ c ∈ structsAll stem slots, (∃ s ∈ slots, s.structName? stem = some c.name)
    ∨ ∃ d ∈ structsAll stem slots, d.name ≠ c.name ∧ d.Mentions c.name
  := by
  intro c made
  cases slots with
  | nil => cases made
  | cons s ss =>
      obtain ⟨-, first, later⟩ := spoken
      rw [structsAll] at made ⊢
      obtain made | made := List.mem_append.mp made
      · obtain named | ⟨d, there, other, mentions⟩ := exists_mention_structs first c made
        · left
          use s, List.mem_cons_self
        · right
          use d, List.mem_append_left _ there
      · obtain ⟨s', inside, named⟩ | ⟨d, there, other, mentions⟩ := exists_mention later c made
        · left
          use s', List.mem_cons_of_mem _ inside
        · right
          use d, List.mem_append_right _ there

end

end Slot

end ContractBindings
