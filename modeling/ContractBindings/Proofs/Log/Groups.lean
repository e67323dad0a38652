import ContractBindings.Log.Report
import Mathlib.Algebra.Ring.Nat
import Mathlib.Data.List.Basic
import Mathlib.Data.List.Nodup
import Mathlib.Tactic.Common

/-!
# Notes by group

The two reports each make a table of their own over the warnings, a note at a time.  One lemma for
each shows what a note does to the table: it brings `grouped f notes`, which has a value for the
notes of each group under the name of that group, to the table for one note more.  So the table of
`collect` has the notes of each group, in the order in which they were made, and the table of
`count` has their number.

Sorted, the groups have strictly increasing names, and they hold each note once.  So the counts,
which are the lengths of these groups, add up to the number of notes.
-/

namespace ContractBindings

/-! ## Tables given by their names -/

namespace Table

variable {β : Type}

/-- The table that has the value of a function under each of some names. -/
def ofNames (names : List String) (f : String → β) : Table β :=
  names.map fun name => (name, f name)

/-- Names with one more at the end, unless it is among them. -/
def withName (names : List String) (name : String) : List String :=
  if name ∈ names then names else names ++ [name]

variable (names : List String) (f g : String → β) (name : String)

/-- The names of a table that is given by its names. -/
theorem names_ofNames :
  (ofNames names f).names = names
  := by
  rw [Table.names, ofNames, List.map_map]
  apply List.map_id

/-- The value of the function is under each of the names, and nothing is under any other. -/
theorem getD_ofNames (default : β) :
  (ofNames names f).getD name default = if name ∈ names then f name else default
  := by
  induction names with
  | nil => rfl
  | cons key names ih =>
      simp only [ofNames, getD, List.map_cons, List.lookup_cons] at ih ⊢
      by_cases same : name = key
      · simp [same]
      · simp only [beq_eq_false_iff_ne.mpr same, ih, List.mem_cons, same, false_or]

/-- Tables are equal when their functions are equal at the names. -/
theorem ofNames_congr (same : ∀ name ∈ names, f name = g name) :
  ofNames names f = ofNames names g
  := by
  apply List.map_congr_left
  intro name there
  rw [same name there]

/-- A changed table has a changed function. -/
theorem modify_ofNames (change : β → β) :
  (ofNames names f).modify name change
    = ofNames names fun key => if key = name then change (f key) else f key
  := by
  simp [modify, ofNames]

/-- A name that is entered with the value of the function is one more name. -/
theorem setDefault_ofNames {value : β} (fits : name ∉ names → f name = value) :
  (ofNames names f).setDefault name value = ofNames (withName names name) f
  := by
  rw [setDefault, withName, names_ofNames]
  split
  next => rfl
  next new => rw [ofNames, ofNames, List.map_append, ← fits new, List.map_singleton]

/-- A value that is put under a name is the value of the function at that name. -/
theorem put_ofNames (value : β) :
  (ofNames names f).put name value
    = ofNames (withName names name) fun key => if key = name then value else f key
  := by
  rw [put, withName, names_ofNames]
  split
  next => rw [modify_ofNames]
  next new =>
      have others :
          ofNames names f = ofNames names fun key => if key = name then value else f key := by
        apply ofNames_congr
        intro key there
        rw [if_neg (ne_of_mem_of_not_mem there new)]
      rw [others, ofNames, ofNames, List.map_append, List.map_singleton, if_pos rfl]

/-- A sorted table has sorted names. -/
theorem sorted_ofNames :
  (ofNames names f).sorted = ofNames names.mergeSort f
  := by
  symm
  apply List.map_mergeSort
  intros
  rfl

end Table

namespace Log

/-! ## What one note does to a table -/

/-- The names of the groups of notes, in the order in which they come up. -/
def groupNames (notes : List Note) : List String :=
  (notes.map Note.group).eraseDups

/-- A table with a value for the notes of each group. -/
def grouped {β : Type} (f : List Note → β) (notes : List Note) : Table β :=
  Table.ofNames (groupNames notes) fun name => f (notes.filter (·.group = name))

variable (notes : List Note)

/-- The names of groups are those of the groups of notes. -/
theorem mem_groupNames_iff (name : String) :
  name ∈ groupNames notes ↔ ∃ n ∈ notes, n.group = name
  := by
  simp [groupNames]

/-- No note has a group whose name does not come up. -/
theorem filter_eq_nil_of_not_mem_groupNames {name : String} (new : name ∉ groupNames notes) :
  notes.filter (·.group = name) = []
  := by
  rw [List.filter_eq_nil_iff]
  intro n there
  have differs : n.group ≠ name := by
    intro same
    apply new
    apply (mem_groupNames_iff notes name).mpr
    use n
  simpa using differs

/-- One more note brings up the name of its group. -/
theorem groupNames_append_singleton (n : Note) :
  groupNames (notes ++ [n]) = Table.withName (groupNames notes) n.group
  := by
  simp only [groupNames, Table.withName, List.map_append, List.map_singleton,
    List.eraseDups_append, List.mem_eraseDups]
  by_cases there : n.group ∈ notes.map Note.group
  · have known : [n.group].removeAll (notes.map Note.group) = [] := by
      simpa [List.removeAll] using there
    rw [if_pos there, known, List.eraseDups_nil, List.append_nil]
  · have new : [n.group].removeAll (notes.map Note.group) = [n.group] := by
      simpa [List.removeAll] using there
    rw [if_neg there, new]
    rfl

/-- One more note is the last of its group, and of no other. -/
theorem filter_append_singleton (n : Note) (name : String) :
  (notes ++ [n]).filter (·.group = name)
    = if name = n.group then notes.filter (·.group = name) ++ [n]
      else notes.filter (·.group = name)
  := by
  rw [List.filter_append]
  by_cases same : name = n.group
  · simp [same]
  · simp [same, Ne.symm same]

/-- A note is collected at the end of its group. -/
theorem collectOne_grouped (n : Note) :
  collectOne (grouped id notes) n = grouped id (notes ++ [n])
  := by
  have fits : n.group ∉ groupNames notes → notes.filter (·.group = n.group) = [] :=
    filter_eq_nil_of_not_mem_groupNames notes
  rw [collectOne, grouped, Table.setDefault_ofNames _ _ _ fits, Table.modify_ofNames, grouped,
    groupNames_append_singleton]
  apply Table.ofNames_congr
  intro name _
  rw [id, id, filter_append_singleton]

/-- A note is counted in its group. -/
theorem countOne_grouped (n : Note) :
  countOne (grouped List.length notes) n = grouped List.length (notes ++ [n])
  := by
  have before : (grouped List.length notes).getD n.group 0
      = (notes.filter (·.group = n.group)).length := by
    rw [grouped, Table.getD_ofNames]
    split
    next => rfl
    next new => rw [filter_eq_nil_of_not_mem_groupNames notes new, List.length_nil]
  rw [countOne, before, grouped, Table.put_ofNames, grouped, groupNames_append_singleton]
  apply Table.ofNames_congr
  intro name _
  rw [filter_append_singleton]
  split
  next same => rw [same, List.length_append, List.length_singleton]
  next => rfl

/-! ## What all notes do to the empty table -/

/-- A loop whose steps each add a note to a table of groups makes the table of all groups. -/
theorem foldl_grouped {β : Type} {f : List Note → β} {step : Table β → Note → Table β}
    (adds : ∀ notes n, step (grouped f notes) n = grouped f (notes ++ [n])) :
  notes.foldl step [] = grouped f notes
  := by
  suffices further : ∀ before : List Note,
      notes.foldl step (grouped f before) = grouped f (before ++ notes) from further []
  induction notes with
  | nil => simp
  | cons n notes ih =>
      intro before
      rw [List.foldl_cons, adds, ih, List.append_assoc, List.singleton_append]

/-- The notes are collected by group. -/
theorem collect_eq :
  collect notes = grouped id notes
  := foldl_grouped notes collectOne_grouped

/-- The notes are counted by group. -/
theorem count_eq :
  count notes = grouped List.length notes
  := foldl_grouped notes countOne_grouped

/-! ## Groups in order -/

/-- No item is left twice when duplicates are erased. -/
theorem nodup_eraseDups {α : Type} [DecidableEq α] (as : List α) :
  as.eraseDups.Nodup
  := by
  induction h : as.length using Nat.strongRecOn generalizing as with
  | _ n ih =>
      cases as with
      | nil => apply List.nodup_nil
      | cons a as =>
          rw [List.eraseDups_cons, List.nodup_cons]
          constructor
          · simp
          · apply ih _ _ _ rfl
            rw [← h, List.length_cons, Nat.lt_succ_iff]
            apply List.length_filter_le

/-- The sorted names of groups differ from each other. -/
theorem nodup_mergeSort_groupNames :
  (groupNames notes).mergeSort.Nodup
  := by
  apply (List.mergeSort_perm _ _).nodup_iff.mpr
  apply nodup_eraseDups

/-- The sorted names of groups are strictly increasing. -/
theorem pairwise_lt_mergeSort_groupNames :
  (groupNames notes).mergeSort.Pairwise (· < ·)
  := by
  have increasing : (groupNames notes).mergeSort.Pairwise (fun a b => decide (a ≤ b) = true) := by
    apply List.pairwise_mergeSort
    · intro a b c
      simpa using String.le_trans
    · intro a b
      simpa using String.le_total a b
  apply (increasing.and (nodup_mergeSort_groupNames notes)).imp
  intro a b h
  apply Std.lt_of_le_of_ne (of_decide_eq_true h.1) h.2

/-- Notes are put in another order only, when they are taken by the names of their groups. -/
theorem perm_flatMap_filter {names : List String} (nodup : names.Nodup)
    (covered : ∀ n ∈ notes, n.group ∈ names) :
  (names.flatMap fun name => notes.filter (·.group = name)).Perm notes
  := by
  induction names generalizing notes with
  | nil =>
      rw [List.eq_nil_iff_forall_not_mem.mpr fun n there => List.not_mem_nil (covered n there)]
      apply List.Perm.refl
  | cons name names ih =>
      obtain ⟨apart, nodup⟩ := List.nodup_cons.mp nodup
      have rest : (names.flatMap fun other => notes.filter (·.group = other)).Perm
          (notes.filter fun n => !decide (n.group = name)) := by
        -- No note of another name has the first one.
        have others : ∀ other ∈ names, notes.filter (·.group = other)
            = (notes.filter fun n => !decide (n.group = name)).filter (·.group = other) := by
          intro other there
          rw [List.filter_filter]
          apply List.filter_congr
          intro n _
          by_cases same : n.group = other
          · have differs : other ≠ name := by
              rintro rfl
              apply apart there
            simp [same, differs]
          · simp [same]
        rw [List.flatMap_congr others]
        apply ih _ nodup
        intro n there
        obtain ⟨member, differs⟩ := List.mem_filter.mp there
        simpa [by simpa using differs] using covered n member
      rw [List.flatMap_cons]
      apply (rest.append_left _).trans
      apply List.filter_append_perm

/-! ## Counts -/

/-- The numbers of notes by group, in order. -/
def counts : Table Nat :=
  (count notes).sorted

/-- The counts are those of the notes of each name, by sorted names. -/
theorem counts_eq :
  counts notes
    = (groupNames notes).mergeSort.map fun name => (name, (notes.filter (·.group = name)).length)
  := by
  rw [counts, count_eq, grouped, Table.sorted_ofNames]
  rfl

/-- The counts are the lengths of the groups that are collected, in the same order. -/
theorem sorted_collect :
  (collect notes).sorted
    = (counts notes).map fun c => (c.1, notes.filter (·.group = c.1))
  := by
  rw [collect_eq, grouped, Table.sorted_ofNames, counts_eq, List.map_map]
  rfl

/-- The counts have strictly increasing names. -/
theorem pairwise_lt_counts :
  (counts notes).Pairwise fun c d => c.1 < d.1
  := by
  simpa [counts_eq, List.pairwise_map] using pairwise_lt_mergeSort_groupNames notes

/-- A count is that of the notes of its name, of which there are some. -/
theorem mem_counts_iff (name : String) (count : Nat) :
  (name, count) ∈ counts notes ↔ (notes.filter (·.group = name)).length = count ∧ 0 < count
  := by
  have held : name ∈ (groupNames notes).mergeSort
      ↔ 0 < (notes.filter (·.group = name)).length := by
    rw [List.mem_mergeSort, mem_groupNames_iff, List.length_filter_pos_iff]
    simp
  simp only [counts_eq, List.mem_map, Prod.mk.injEq]
  constructor
  · rintro ⟨_, there, rfl, rfl⟩
    use rfl, held.mp there
  · rintro ⟨rfl, positive⟩
    use name, held.mpr positive

/-- The groups that are counted hold each note once. -/
theorem perm_flatMap_counts :
  ((counts notes).flatMap fun c => notes.filter (·.group = c.1)).Perm notes
  := by
  rw [counts_eq, List.flatMap_map]
  apply perm_flatMap_filter notes (nodup_mergeSort_groupNames notes)
  intro n there
  rw [List.mem_mergeSort, mem_groupNames_iff]
  use n

/-- The counts add up to the number of notes. -/
theorem sum_counts :
  ((counts notes).map (·.2)).sum = notes.length
  := by
  have total := (perm_flatMap_counts notes).length_eq
  rw [List.length_flatMap] at total
  rw [← total, counts_eq, List.map_map, List.map_map]
  rfl

/-- There are no counts when there are no notes. -/
theorem counts_eq_nil_iff :
  counts notes = [] ↔ notes = []
  := by
  constructor
  · intro none
    have total := sum_counts notes
    rw [none] at total
    apply List.length_eq_zero_iff.mp total.symm
  · rintro rfl
    rw [counts, count, List.foldl_nil, Table.sorted, List.mergeSort_nil]

end Log

end ContractBindings
