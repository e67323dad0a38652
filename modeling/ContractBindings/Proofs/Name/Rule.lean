import ContractBindings.Proofs.Name.Distinct
import Mathlib.Order.Bounds.Basic

/-!
# The rule of distinct names

Distinct names are assigned by a plain rule that looks only at the names assigned before: a
candidate is kept unless it is one of them, and otherwise it is followed by the least positive
number that makes it none of them (`distinct_by_rule`).

The numbers that are remembered only save steps of the search.  That they do no more is
`Naming.Accounts`: all positive numbers below the remembered one give names that are in use, and
it is at least the number of earlier items with this candidate.  This holds before the first
candidate and is kept by each assignment.
-/

namespace ContractBindings.Name

open Numbered

namespace Naming

variable {α : Type} [DecidableEq α] [Numbered α]

/-! ## One assignment -/

/-- The search starts at the remembered number and takes at most one step for each name in
use. -/
theorem start_le_ordinal_and_le (naming : Naming α) (candidate : α) :
  naming.start candidate ≤ naming.ordinal candidate
    ∧ naming.ordinal candidate ≤ naming.start candidate + naming.used.length
  := by
  have among := List.mem_of_find?_eq_some (naming.find?_eq_some_ordinal candidate)
  rw [List.mem_range'_1] at among
  omega

/-- The numbers that the search passes over give names in use. -/
theorem numbered_mem_of_lt_ordinal {naming : Naming α} {candidate : α} {n : Nat}
    (tried : naming.start candidate ≤ n) (passed : n < naming.ordinal candidate) :
  numbered candidate n ∈ naming.used
  := by
  obtain ⟨-, -, taken⟩ := List.find?_range'_eq_some.mp (naming.find?_eq_some_ordinal candidate)
  simpa using taken n tried passed

/-- Only for a candidate that is not kept another number is remembered: the one after the number
that it is given. -/
theorem start_assign (naming : Naming α) (candidate other : α) :
  (naming.assign candidate).start other
    = if other = candidate ∧ candidate ∈ naming.used then naming.ordinal candidate + 1
      else naming.start other
  := by
  by_cases used : candidate ∈ naming.used
  · by_cases same : other = candidate
    · simp [start, assign, used, same]
    · have apart : (other == candidate) = false := beq_false_of_ne same
      simp [start, assign, used, same, List.lookup_cons, apart]
  · simp [start, assign, used]

/-- A candidate is in use once it has been given a name. -/
theorem mem_used_assign (naming : Naming α) (candidate : α) :
  candidate ∈ (naming.assign candidate).used
  := by
  by_cases used : candidate ∈ naming.used
  · apply List.mem_cons_of_mem _ used
  · have kept : naming.assigned candidate = candidate := if_neg used
    rw [assign, kept]
    apply List.mem_cons_self

/-! ## All assignments -/

/-- What is remembered after a list of candidates have been given their names. -/
def assignAll (naming : Naming α) (candidates : List α) : Naming α :=
  candidates.foldl assign naming

theorem assignAll_append_singleton (naming : Naming α) (before : List α) (candidate : α) :
  naming.assignAll (before ++ [candidate]) = (naming.assignAll before).assign candidate
  := List.foldl_concat ..

/-- Candidates are assigned names after those before them. -/
theorem assignedAll_append (naming : Naming α) (before after : List α) :
  naming.assignedAll (before ++ after)
    = naming.assignedAll before ++ (naming.assignAll before).assignedAll after
  := by
  induction before generalizing naming with
  | nil => rfl
  | cons candidate rest ih =>
      rw [List.cons_append, assignedAll, ih]
      rfl

/-- The names in use after a list of candidates are those assigned to them and those in use
before. -/
theorem used_assignAll (naming : Naming α) (candidates : List α) :
  (naming.assignAll candidates).used = (naming.assignedAll candidates).reverse ++ naming.used
  := by
  induction candidates generalizing naming with
  | nil => rfl
  | cons candidate rest ih =>
      rw [assignedAll, List.reverse_cons, List.append_assoc]
      apply ih

/-- What is remembered accounts for earlier candidates. -/
structure Accounts (naming : Naming α) (earlier : List α) : Prop where
  used : ∀ candidate ∈ earlier, candidate ∈ naming.used
  positive (candidate : α) : 1 ≤ naming.start candidate
  taken (candidate : α) (n : Nat) : 1 ≤ n → n < naming.start candidate →
    numbered candidate n ∈ naming.used
  counted (candidate : α) : earlier.count candidate ≤ naming.start candidate

theorem accounts_empty :
  (empty : Naming α).Accounts []
  := by
  constructor
  · apply List.forall_mem_nil
  · intro candidate
    apply Nat.le_refl
  · intro candidate n positive below
    apply absurd positive (Nat.not_le_of_lt below)
  · intro candidate
    apply Nat.zero_le

namespace Accounts

variable {naming : Naming α} {earlier : List α} (h : naming.Accounts earlier)

include h

/-- All positive numbers below the one that is given give names in use. -/
theorem numbered_mem {candidate : α} {n : Nat} (positive : 1 ≤ n)
    (below : n < naming.ordinal candidate) :
  numbered candidate n ∈ naming.used
  := by
  by_cases tried : naming.start candidate ≤ n
  · apply numbered_mem_of_lt_ordinal tried below
  · apply h.taken candidate n positive (Nat.lt_of_not_le tried)

/-- The number that is given to a candidate is the least positive one that makes it free. -/
theorem isLeast_ordinal (candidate : α) :
  IsLeast { n | 1 ≤ n ∧ numbered candidate n ∉ naming.used } (naming.ordinal candidate)
  := by
  constructor
  · use Nat.le_trans (h.positive candidate) (naming.start_le_ordinal_and_le candidate).1
    apply numbered_ordinal_notMem
  · rintro n ⟨positive, free⟩
    by_contra smaller
    apply free (h.numbered_mem positive (Nat.lt_of_not_le smaller))

/-- A candidate that is kept is none of the earlier ones. -/
theorem count_eq_zero {candidate : α} (kept : candidate ∉ naming.used) :
  earlier.count candidate = 0
  := by
  apply List.count_eq_zero.mpr
  intro member
  apply kept (h.used candidate member)

/-- What is remembered accounts for one more candidate after it has been given its name. -/
theorem assign (candidate : α) :
  (naming.assign candidate).Accounts (earlier ++ [candidate])
  := by
  have bound := naming.start_le_ordinal_and_le candidate
  constructor
  · rw [List.forall_mem_append, List.forall_mem_singleton]
    use fun other member => List.mem_cons_of_mem _ (h.used other member)
    apply mem_used_assign
  · intro other
    rw [start_assign]
    split
    · apply Nat.succ_pos
    · apply h.positive
  · intro other n positive below
    rw [start_assign] at below
    split at below
    · next again =>
      obtain ⟨rfl, used⟩ := again
      -- The number that has just been given is in use from now on, the smaller ones were before.
      obtain below | rfl := Nat.lt_succ_iff_lt_or_eq.mp below
      · apply List.mem_cons_of_mem _ (h.numbered_mem positive below)
      · have given : naming.assigned other = numbered other (naming.ordinal other) := if_pos used
        rw [Naming.assign, given]
        apply List.mem_cons_self
    · apply List.mem_cons_of_mem _ (h.taken other n positive below)
  · intro other
    have counted := h.counted other
    rw [start_assign, List.count_append]
    by_cases same : other = candidate
    · subst same
      rw [List.count_singleton_self]
      by_cases used : other ∈ naming.used
      · rw [if_pos ⟨rfl, used⟩]
        omega
      · rw [if_neg (fun again => used again.2), h.count_eq_zero used]
        apply h.positive
    · have apart : other ∉ [candidate] := by
        simpa using same
      rw [if_neg (fun again => same again.1), List.count_eq_zero_of_not_mem apart]
      apply counted

/-- What is remembered accounts for all candidates that have been given names. -/
theorem assignAll (candidates : List α) :
  (naming.assignAll candidates).Accounts (earlier ++ candidates)
  := by
  induction candidates generalizing naming earlier with
  | nil =>
      rw [List.append_nil]
      apply h
  | cons candidate rest ih =>
      rw [List.append_cons]
      apply ih (h.assign candidate)

end Accounts

end Naming

/-! ## The rule -/

/-- The number that is tried first for a candidate, as it is remembered after the candidates
before it. -/
def remembered (before : List String) (candidate : String) : Nat :=
  (Naming.empty.assignAll before).start candidate

/-- The positive numbers that make a candidate none of the earlier names. -/
def freeNumbers (earlier : List String) (candidate : String) : Set Nat :=
  { n | 1 ≤ n ∧ candidate ++ toString n ∉ earlier }

/-- The number that follows a candidate when it is not kept: the least one that makes it free,
also among those from the number of earlier items with this candidate on.  It is reached from the
remembered number in at most one step for each earlier item, and the one after it is remembered
next. -/
structure FollowingNumber (before : List String) (candidate : String) (n : Nat) : Prop where
  least : IsLeast (freeNumbers (distinct before) candidate) n
  counted : IsLeast { m ∈ freeNumbers (distinct before) candidate | before.count candidate ≤ m } n
  tried : remembered before candidate ≤ n
  reached : n ≤ remembered before candidate + before.length
  next : remembered (before ++ [candidate]) candidate = n + 1

/-- How the name of a candidate follows from the candidates before it. -/
structure FollowsRule (before : List String) (candidate name : String) : Prop where
  kept : name = candidate ↔ candidate ∉ distinct before
  numbered : candidate ∈ distinct before →
    ∃ n, name = candidate ++ toString n ∧ FollowingNumber before candidate n

/-- The names in use after some candidates are those assigned to them. -/
theorem mem_used_assignAll_empty (before : List String) (name : String) :
  name ∈ (Naming.empty.assignAll before).used ↔ name ∈ distinct before
  := by
  have unused : name ∉ (Naming.empty : Naming String).used := List.not_mem_nil
  rw [Naming.used_assignAll, List.mem_append, List.mem_reverse, or_iff_left unused]
  rfl

/-- The number that is given to a candidate is the least one that makes it free. -/
theorem followingNumber_ordinal {before : List String} {candidate : String}
    (h : candidate ∈ distinct before) :
  FollowingNumber before candidate ((Naming.empty.assignAll before).ordinal candidate)
  := by
  have accounts := Naming.accounts_empty.assignAll before
  have bound := (Naming.empty.assignAll before).start_le_ordinal_and_le candidate
  have length_used : (Naming.empty.assignAll before).used.length = before.length := by
    rw [Naming.used_assignAll, List.length_append, List.length_reverse, Naming.length_assignedAll]
    rfl
  have least := accounts.isLeast_ordinal candidate
  simp only [mem_used_assignAll_empty] at least
  constructor
  · apply least
  · constructor
    · use least.1
      apply Nat.le_trans (accounts.counted candidate) bound.1
    · rintro n ⟨free, -⟩
      apply least.2 free
  · apply bound.1
  · rw [← length_used]
    apply bound.2
  · rw [remembered, Naming.assignAll_append_singleton, Naming.start_assign]
    apply if_pos
    use rfl
    apply (mem_used_assignAll_empty before candidate).mpr h

/-- The name that is assigned after some candidates follows the rule. -/
theorem followsRule_assigned (before : List String) (candidate : String) :
  FollowsRule before candidate ((Naming.empty.assignAll before).assigned candidate)
  := by
  constructor
  · rw [← mem_used_assignAll_empty, ← Naming.assigned_ne_iff, not_not]
  · intro h
    use (Naming.empty.assignAll before).ordinal candidate
    constructor
    · apply if_pos
      apply (mem_used_assignAll_empty before candidate).mpr h
    · apply followingNumber_ordinal h

/-- Distinct names are those that the rule assigns, one to each candidate and in order, and the
renamed candidates are those whose names differ from them. -/
theorem distinct_by_rule (candidates : List String) :
  (distinct candidates).length = candidates.length
    ∧ (distinct candidates).Nodup
    ∧ renames candidates
        = (candidates.zip (distinct candidates)).filter (fun x => x.2 ≠ x.1)
    ∧ ∀ before candidate after, candidates = before ++ candidate :: after →
        ∃ name later, distinct candidates = distinct before ++ name :: later
          ∧ FollowsRule before candidate name
  := by
  refine ⟨length_distinct candidates, nodup_distinct candidates, ?_, ?_⟩
  · apply Naming.renames_eq_filter
  · rintro before candidate after rfl
    use (Naming.empty.assignAll before).assigned candidate,
      ((Naming.empty.assignAll before).assign candidate).assignedAll after
    constructor
    · apply Naming.assignedAll_append
    · apply followsRule_assigned

/-- A name that is assigned as a duplicate is in the way of a later candidate. -/
theorem distinct_by_rule_cascade :
  distinct ["a", "a", "a1", "a", "a1"] = ["a", "a1", "a11", "a2", "a12"]
    ∧ ∃ name later,
      distinct ["a", "a", "a1", "a", "a1"] = distinct ["a", "a", "a1"] ++ name :: later
      ∧ FollowsRule ["a", "a", "a1"] "a" name
  := by
  constructor
  · decide +kernel
  · obtain ⟨-, -, -, rule⟩ := distinct_by_rule ["a", "a", "a1", "a", "a1"]
    apply rule ["a", "a", "a1"] "a" ["a1"] rfl

end ContractBindings.Name
