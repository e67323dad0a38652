import ContractBindings.Name.Numbered
import ContractBindings.Name.Reserved

/-!
# Distinct names

Candidate names are turned into pairwise distinct ones, in order.  A candidate that no
earlier item has been given is kept.  Any other is followed by the least number that makes
it free, counted from one, or from past the number last given to the same candidate.
Candidates are texts or other `Numbered` names.

`Naming` is what has to be remembered from item to item, `distinct` the assigned names and
`renames` the candidates that were not kept, each with the name assigned instead.
`siblings` names parameters that stand side by side: those without a name are called by a
default word and their position, and reserved names are escaped, before all are made
distinct.
-/

namespace ContractBindings.Name

open Numbered

/-- The names assigned so far, and for a candidate the number to be tried next. -/
structure Naming (α : Type) where
  used : List α
  next : List (α × Nat)

namespace Naming

variable {α : Type}

/-- No name assigned yet. -/
def empty : Naming α := ⟨[], []⟩

variable [DecidableEq α] [Numbered α]

/-- The number to be tried first after a candidate. -/
def start (naming : Naming α) (candidate : α) : Nat :=
  (naming.next.lookup candidate).getD 1

/-- The least number from `start` on that makes a candidate free.  One more number than
there are names in use always suffices. -/
def ordinal (naming : Naming α) (candidate : α) : Nat :=
  let start := naming.start candidate
  ((List.range' start (naming.used.length + 1)).find?
    (fun n => numbered candidate n ∉ naming.used)).getD start

/-- The name assigned to a candidate. -/
def assigned (naming : Naming α) (candidate : α) : α :=
  if candidate ∈ naming.used then
    numbered candidate (naming.ordinal candidate)
  else
    candidate

/-- What is remembered after a candidate has been given its name. -/
def assign (naming : Naming α) (candidate : α) : Naming α where
  used := naming.assigned candidate :: naming.used
  next :=
    if candidate ∈ naming.used then
      (candidate, naming.ordinal candidate + 1) :: naming.next
    else
      naming.next

/-- The names assigned to a list of candidates. -/
def assignedAll (naming : Naming α) : List α → List α
  | [] => []
  | candidate :: rest => naming.assigned candidate :: (naming.assign candidate).assignedAll rest

theorem length_assignedAll (naming : Naming α) (candidates : List α) :
  (naming.assignedAll candidates).length = candidates.length
  := by
  induction candidates generalizing naming with
  | nil => rfl
  | cons candidate rest ih => simp [assignedAll, ih]

/-- The candidates that are not kept, with the names assigned instead. -/
def renames (naming : Naming α) : List α → List (α × α)
  | [] => []
  | candidate :: rest =>
    let later := (naming.assign candidate).renames rest
    if candidate ∈ naming.used then (candidate, naming.assigned candidate) :: later else later

end Naming

section

variable {α : Type} [DecidableEq α] [Numbered α]

/-- Pairwise distinct names for a list of candidates. -/
def distinct (candidates : List α) : List α :=
  Naming.empty.assignedAll candidates

@[simp]
theorem length_distinct (candidates : List α) :
  (distinct candidates).length = candidates.length
  := Naming.length_assignedAll ..

/-- The candidates that `distinct` does not keep, with the names assigned instead. -/
def renames (candidates : List α) : List (α × α) :=
  Naming.empty.renames candidates

end

/-- The names by position, an empty one replaced by the word followed by the position. -/
def orDefault (word : String) (names : List String) : List String :=
  names.mapIdx fun i name => if name = "" then word ++ toString i else name

/-- Distinct names for parameters that stand side by side, none reserved as given nor among
the names `taken` by their surroundings. -/
def siblings (word : String) (taken : List String) (names : List String) : List String :=
  distinct ((orDefault word names).map (escape taken))

@[simp]
theorem length_siblings (word : String) (taken names : List String) :
  (siblings word taken names).length = names.length
  := by
  simp [siblings, orDefault]

end ContractBindings.Name
