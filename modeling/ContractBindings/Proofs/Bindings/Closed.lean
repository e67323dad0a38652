import ContractBindings.Proofs.Section.Mention
import ContractBindings.Proofs.Section.WellFormed
import Mathlib.Tactic.Common

/-!
# Bindings are closed

All types that occur in the classes of bindings are made from names that are imported, from
built-in names, or from the names of the classes themselves, and all bodies are well scoped.
Conversely no class is left over: every class is an entry to the bindings or is mentioned by a
class of another name.
-/

namespace ContractBindings

/-- The names that the types of bindings may be made from. -/
def Bindings.typeNames (b : Bindings) : List String :=
  b.imports.flatMap (·.names) ++ builtinNames ++ b.classNames

/-- Bindings without loose ends in either direction. -/
structure Bindings.Closed (b : Bindings) : Prop where
  wellFormed : ∀ c ∈ b.classes, c.WellFormed b.typeNames
  mentioned : ∀ c ∈ b.classes, c.IsEntry ∨ c.MentionedIn b.classes

namespace Interface

/-- The bindings of a checked interface are well-formed over their names. -/
theorem wellFormed_of_typeNames (options : Options) (i : Interface Slot) :
  ∀ c ∈ (i.bindings options).classes, c.WellFormed (i.bindings options).typeNames
  := by
  apply wellFormed_bindings
  · intro name standard
    apply List.mem_append_left
    simpa [bindings, Options.imports, standardNames] using standard
  · intro c made
    apply List.mem_append_right
    apply List.mem_map_of_mem made

/-- The classes of bindings are entries or mentioned, section by section. -/
theorem mentionedIn_bindings (options : Options) {i : Interface Parameter} {j : Interface Slot}
    (h : i.check? = .ok j) :
  ∀ c ∈ (j.bindings options).classes, c.IsEntry ∨ c.MentionedIn (j.bindings options).classes
  := by
  intro c made
  obtain ⟨s, among, made⟩ := List.mem_flatMap.mp made
  have mentioned : c.IsEntry ∨ c.MentionedIn s.classes := by
    simp only [sections, List.mem_cons, List.not_mem_nil, or_false] at among
    obtain rfl | rfl | rfl := among
    · apply mentionedIn_eventSection h c made
    · apply mentionedIn_contractSection h _ c made
    · apply mentionedIn_callSection h c made
  apply mentioned.imp_right
  intro inside
  apply inside.flatMap among

/-- Bindings are closed. -/
theorem closed_bindings {options : Options} {i : Interface Parameter} {b : Bindings}
    (made : i.bindings? options = .ok b) :
  b.Closed
  := by
  obtain ⟨j, checked, rfl⟩ := bindings?_eq_ok_iff.mp made
  constructor
  · apply wellFormed_of_typeNames
  · apply mentionedIn_bindings options checked

/-- An event with an indexed tuple and arrays of tuples inside a tuple, and a function that
takes and returns tuples. -/
def vault : Interface Parameter where
  name := "Vault"
  members :=
    [.event
      { name := "Moved"
        inputs :=
          [{ type := "tuple", name := some "key", indexed := true,
             components := some [{ type := "bool" }] },
            { type := "tuple[2]", name := some "legs",
              components := some
                [{ type := "tuple[][]", name := some "steps",
                   components := some [{ type := "uint8" }] }] }]
        anonymous := false },
     .function
      { name := "quote"
        inputs :=
          [{ type := "tuple", name := some "result", components := some [{ type := "int" }] }]
        outputs := [{ type := "tuple[]", components := some [{ type := "bytes32[]" }] },
          { type := "bool" }]
        mutability := "view" }]

theorem closed_vault :
  ∃ b, vault.bindings? {} = .ok b ∧ b.Closed
  := by
  have accepted : vault.check?.isOk := by
    decide +kernel
  obtain ⟨b, made⟩ := exists_bindings?_of_isOk accepted {}
  use b, made
  apply closed_bindings made

end Interface

end ContractBindings
