import ContractBindings.Name.Distinct
import Mathlib.Data.List.Nodup
import Mathlib.Tactic.Push

/-!
# Distinct names are distinct

The number that follows a candidate always makes it free: among one more number than there
are names in use, one gives a name that is not in use, since different numbers give different
names.  So an assigned name is never one of the earlier names, and the names that `distinct`
assigns to a list of candidates are pairwise distinct.  They do not depend on candidates that come
later, and `renames` lists exactly the candidates that are assigned another name.
-/

namespace ContractBindings.Name

open Numbered

namespace Naming

variable {α : Type} [DecidableEq α] [Numbered α]

/-- Among one more number than there are names in use, one makes a candidate free. -/
theorem exists_free (naming : Naming α) (candidate : α) :
  ∃ n ∈ List.range' (naming.start candidate) (naming.used.length + 1),
    numbered candidate n ∉ naming.used
  := by
  by_contra none_free
  push Not at none_free
  have nodup : ((List.range' (naming.start candidate) (naming.used.length + 1)).map
      (numbered candidate)).Nodup := by
    apply List.Nodup.map
    · intro m n h
      apply numbered_inj h
    · exact List.nodup_range'
  have covered : (List.range' (naming.start candidate) (naming.used.length + 1)).map
      (numbered candidate) ⊆ naming.used := by
    intro name h
    obtain ⟨n, hn, rfl⟩ := List.mem_map.mp h
    apply none_free n hn
  have length_le := nodup.length_le_of_subset covered
  simp only [List.length_map, List.length_range'] at length_le
  omega

/-- The search for a number succeeds. -/
theorem find?_eq_some_ordinal (naming : Naming α) (candidate : α) :
  (List.range' (naming.start candidate) (naming.used.length + 1)).find?
      (fun n => numbered candidate n ∉ naming.used)
    = some (naming.ordinal candidate)
  := by
  obtain ⟨n, hn, free⟩ := naming.exists_free candidate
  have found : ((List.range' (naming.start candidate) (naming.used.length + 1)).find?
      (fun n => numbered candidate n ∉ naming.used)).isSome := by
    apply List.find?_isSome.mpr
    use n, hn
    simpa using free
  obtain ⟨m, hm⟩ := Option.isSome_iff_exists.mp found
  rw [ordinal, hm]
  rfl

/-- The number that follows a candidate makes it free. -/
theorem numbered_ordinal_notMem (naming : Naming α) (candidate : α) :
  numbered candidate (naming.ordinal candidate) ∉ naming.used
  := by
  simpa using List.find?_some (naming.find?_eq_some_ordinal candidate)

/-- An assigned name is none of the names in use. -/
theorem assigned_notMem (naming : Naming α) (candidate : α) :
  naming.assigned candidate ∉ naming.used
  := by
  rw [assigned]
  split
  · apply numbered_ordinal_notMem
  · assumption

/-- None of the names that are assigned to a list of candidates was in use before. -/
theorem notMem_used_of_mem_assignedAll {naming : Naming α} {candidates : List α} {name : α}
    (h : name ∈ naming.assignedAll candidates) :
  name ∉ naming.used
  := by
  induction candidates generalizing naming with
  | nil => cases h
  | cons candidate rest ih =>
      obtain rfl | later := List.mem_cons.mp h
      · apply assigned_notMem
      · intro used
        apply ih later
        apply List.mem_cons_of_mem _ used

/-- The names that are assigned to a list of candidates are pairwise distinct. -/
theorem nodup_assignedAll (naming : Naming α) (candidates : List α) :
  (naming.assignedAll candidates).Nodup
  := by
  induction candidates generalizing naming with
  | nil => apply List.nodup_nil
  | cons candidate rest ih =>
      apply List.nodup_cons.mpr
      constructor
      · intro again
        apply notMem_used_of_mem_assignedAll again
        apply List.mem_cons_self
      · apply ih

/-- The names that are assigned to candidates do not depend on the candidates after them. -/
theorem prefix_assignedAll (naming : Naming α) {candidates longer : List α}
    (h : candidates <+: longer) :
  naming.assignedAll candidates <+: naming.assignedAll longer
  := by
  induction candidates generalizing naming longer with
  | nil => apply List.nil_prefix
  | cons candidate rest ih =>
      obtain ⟨later, rfl⟩ := h
      rw [List.cons_append, assignedAll, assignedAll, List.prefix_cons_inj]
      apply ih
      apply List.prefix_append

/-- A candidate is assigned another name if and only if it is in use. -/
theorem assigned_ne_iff (naming : Naming α) (candidate : α) :
  naming.assigned candidate ≠ candidate ↔ candidate ∈ naming.used
  := by
  constructor
  · intro changed
    by_contra free
    apply changed (if_neg free)
  · intro used same
    apply naming.assigned_notMem candidate
    rw [same]
    apply used

/-- The candidates that are not kept are those that are assigned another name. -/
theorem renames_eq_filter (naming : Naming α) (candidates : List α) :
  naming.renames candidates
    = (candidates.zip (naming.assignedAll candidates)).filter fun x => x.2 ≠ x.1
  := by
  induction candidates generalizing naming with
  | nil => rfl
  | cons candidate rest ih =>
      rw [renames, assignedAll, List.zip_cons_cons, List.filter_cons, ih]
      simp only [decide_eq_true_eq, assigned_ne_iff]

end Naming

/-- The names that `distinct` assigns are pairwise distinct. -/
theorem nodup_distinct {α : Type} [DecidableEq α] [Numbered α] (candidates : List α) :
  (distinct candidates).Nodup
  := Naming.nodup_assignedAll ..

/-- Items keep their distinct names when more items follow. -/
theorem prefix_zip_distinct {α β : Type} [DecidableEq α] [Numbered α] (candidate : β → α)
    {items longer : List β} (h : items <+: longer) :
  (distinct (items.map candidate)).zip items <+: (distinct (longer.map candidate)).zip longer
  := by
  obtain ⟨names, assigned⟩ := Naming.empty.prefix_assignedAll (h.map candidate)
  obtain ⟨later, rfl⟩ := h
  rw [distinct, distinct, ← assigned, List.zip_append]
  · apply List.prefix_append
  · rw [Naming.length_assignedAll, List.length_map]

/-! ## Names of parameters that stand side by side -/

theorem append_ne_empty_of_left {name : String} (h : name ≠ "") (word : String) :
  name ++ word ≠ ""
  := by
  intro empty
  apply h (String.append_eq_empty_iff.mp empty).1

/-- Candidates that are not empty are given names that are not empty. -/
theorem Naming.forall_assignedAll_ne_empty (naming : Naming String) {candidates : List String}
    (h : ∀ candidate ∈ candidates, candidate ≠ "") :
  ∀ name ∈ naming.assignedAll candidates, name ≠ ""
  := by
  induction candidates generalizing naming with
  | nil => simp [assignedAll]
  | cons candidate rest ih =>
      obtain ⟨first, later⟩ := List.forall_mem_cons.mp h
      rw [assignedAll, List.forall_mem_cons]
      constructor
      · rw [assigned]
        split
        · apply append_ne_empty_of_left first
        · apply first
      · apply ih _ later

theorem orDefault_ne_empty {word : String} (h : word ≠ "") (names : List String) :
  ∀ name ∈ orDefault word names, name ≠ ""
  := by
  intro name member
  obtain ⟨position, bound, rfl⟩ := List.mem_mapIdx.mp member
  split
  · apply append_ne_empty_of_left h
  · assumption

theorem escape_ne_empty {name : String} (h : name ≠ "") (taken : List String) :
  escape taken name ≠ ""
  := by
  rw [escape]
  split
  · apply append_ne_empty_of_left h
  · apply h

/-- Parameters that stand side by side are all given names. -/
theorem siblings_ne_empty {word : String} (h : word ≠ "") (taken names : List String) :
  ∀ name ∈ siblings word taken names, name ≠ ""
  := by
  apply Naming.forall_assignedAll_ne_empty
  intro candidate member
  obtain ⟨name, given, rfl⟩ := List.mem_map.mp member
  apply escape_ne_empty
  apply orDefault_ne_empty h names name given

/-! ## Names that are kept

A word that ends in a digit may be assigned to a candidate that is another word, and one that ends
in an underscore may be the escape of another name.  All other words are assigned exactly where
they are asked for.
-/

/-- Whether a word ends, and neither in a digit nor in an underscore. -/
def isPlain (word : String) : Bool :=
  word.toList.getLast?.any fun c => !c.isDigit && c != '_'

section

variable {word : String} (plain : isPlain word)

include plain

/-- A name that is followed by another text is plain only if this text is. -/
theorem append_ne_of_isPlain {ending : String} (spelled : ending ≠ "")
    (h : isPlain ending = false) (name : String) :
  name ++ ending ≠ word
  := by
  rintro rfl
  have last : (name ++ ending).toList.getLast? = ending.toList.getLast? := by
    rw [String.toList_append, List.getLast?_append_of_ne_nil]
    simpa using spelled
  rw [isPlain, last, ← isPlain, h] at plain
  cases plain

/-- A name that is followed by a number ends in a digit. -/
theorem append_toString_ne (name : String) (n : Nat) :
  name ++ toString n ≠ word
  := by
  apply append_ne_of_isPlain plain
  · simp
  · have digits : ∀ c ∈ (toString n).toList.getLast?, c.isDigit := by
      intro c last
      have among : c ∈ Nat.toDigits 10 n := by
        simpa using List.mem_of_getLast? last
      apply Nat.isDigit_of_mem_toDigits (by decide) (by decide) among
    rw [isPlain, Option.any_eq_false]
    intro c last
    simp [digits c last]

/-- A plain word is in use after a list of candidates if and only if it was in use before or is
one of them. -/
theorem Naming.mem_used_or_assignedAll_iff (naming : Naming String) (candidates : List String) :
  word ∈ naming.used ∨ word ∈ naming.assignedAll candidates
    ↔ word ∈ naming.used ∨ word ∈ candidates
  := by
  induction candidates generalizing naming with
  | nil => rfl
  | cons candidate rest ih =>
      have first : word ∈ naming.used ∨ word = naming.assigned candidate
          ↔ word ∈ naming.used ∨ word = candidate := by
        rw [assigned]
        split
        · next used =>
          have numbered : word ≠ Numbered.numbered candidate (naming.ordinal candidate) :=
            (append_toString_ne plain _ _).symm
          constructor
          · rintro (kept | same)
            · left
              apply kept
            · exact absurd same numbered
          · rintro (kept | rfl)
            · left
              apply kept
            · left
              apply used
        · rfl
      have later := ih (naming.assign candidate)
      rw [assign, List.mem_cons, or_comm (a := word = _), first] at later
      rw [assignedAll, List.mem_cons, List.mem_cons, ← or_assoc, first, ← or_assoc]
      apply later

/-- A plain word is assigned if and only if it is a candidate. -/
theorem mem_distinct_iff (candidates : List String) :
  word ∈ distinct candidates ↔ word ∈ candidates
  := by
  have unused : word ∉ (Naming.empty : Naming String).used := List.not_mem_nil
  have kept := Naming.mem_used_or_assignedAll_iff plain Naming.empty candidates
  rwa [or_iff_right unused, or_iff_right unused] at kept

/-- A name is escaped to a plain word if and only if it is this word and needs no escape. -/
theorem escape_eq_iff (taken : List String) (name : String) :
  escape taken name = word ↔ name = word ∧ word ∉ reserved ∧ word ∉ taken
  := by
  rw [escape]
  split
  · next used =>
    constructor
    · intro same
      apply absurd same
      apply append_ne_of_isPlain plain <;> decide
    · rintro ⟨rfl, free, apart⟩
      obtain used | used := used
      · exact absurd used free
      · exact absurd used apart
  · next free =>
    rw [not_or] at free
    constructor
    · rintro rfl
      use rfl, free.1, free.2
    · rintro ⟨rfl, -⟩
      rfl

/-- Names that are given by position are not plain. -/
theorem mem_orDefault_iff (default : String) (names : List String) :
  word ∈ orDefault default names ↔ word ∈ names
  := by
  constructor
  · intro member
    obtain ⟨position, bound, given⟩ := List.mem_mapIdx.mp member
    split at given
    · exact absurd given (append_toString_ne plain _ _)
    · rw [← given]
      apply List.getElem_mem
  · intro member
    obtain ⟨position, bound, rfl⟩ := List.mem_iff_getElem.mp member
    apply List.mem_mapIdx.mpr
    use position, bound
    apply if_neg
    rintro empty
    rw [empty] at plain
    cases plain

/-- A plain word is the name of a parameter if and only if one is declared by this name and it is
not to be escaped. -/
theorem mem_siblings_iff (default : String) (taken names : List String) :
  word ∈ siblings default taken names ↔ word ∈ names ∧ word ∉ reserved ∧ word ∉ taken
  := by
  rw [siblings, mem_distinct_iff plain, List.mem_map, ← mem_orDefault_iff plain default names]
  simp only [escape_eq_iff plain]
  constructor
  · rintro ⟨name, member, rfl, free⟩
    exact ⟨member, free⟩
  · rintro ⟨member, free⟩
    exact ⟨word, member, rfl, free⟩

end

end ContractBindings.Name
