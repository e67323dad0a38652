import ContractBindings.Fault
import Mathlib.Data.List.Forall2
import Mathlib.Tactic.Common

/-!
# Checks in sequence

What a sequence of checks succeeds with, and the fault it ends with otherwise: that of the
first check that fails.  The faults may be those of interfaces or of any other kind.
-/

namespace ContractBindings.Fault

variable {ε α β : Type}

/-- The fault that a check ends with, if it does not succeed. -/
def of? : Except ε α → Option ε
  | .error fault => some fault
  | .ok _ => none

theorem of?_eq_none_iff (x : Except ε α) :
  of? x = none ↔ ∃ a, x = .ok a
  := by
  cases x <;> simp [of?]

theorem of?_eq_some_iff (x : Except ε α) (fault : ε) :
  of? x = some fault ↔ x = .error fault
  := by
  cases x <;> simp [of?]

/-- A check that goes on ends with its own fault, or else with the fault of what follows. -/
theorem of?_bind {x : Except ε α} {f : α → Except ε β} {rest : Option ε}
    (h : ∀ a, x = .ok a → of? (f a) = rest) :
  of? (x >>= f) = (of? x).or rest
  := by
  cases x with
  | error fault => rfl
  | ok a => apply h a rfl

/-- What is made of the result does not change the fault. -/
theorem of?_bind_pure (x : Except ε α) (f : α → β) :
  of? (x >>= fun a => pure (f a)) = of? x
  := by
  cases x <;> rfl

/-- A check that is refused on a condition ends with that fault, or else with the fault of what
follows. -/
theorem of?_ite (p : Prop) [Decidable p] (fault : ε) (x : Except ε α) :
  of? (if p then .error fault else x) = (if p then some fault else none).or (of? x)
  := by
  split <;> rfl

/-- A check that goes on succeeds when both parts do. -/
theorem bind_eq_ok_iff {x : Except ε α} {f : α → Except ε β} {b : β} :
  (x >>= f) = .ok b ↔ ∃ a, x = .ok a ∧ f a = .ok b
  := by
  cases x with
  | error fault =>
      constructor
      · rintro ⟨⟩
      · rintro ⟨_, ⟨⟩, -⟩
  | ok a =>
      constructor
      · intro h
        use a, rfl, h
      · rintro ⟨_, ⟨⟩, h⟩
        apply h

/-- What is made of a result is made of one that is there. -/
theorem map_eq_ok_iff {x : Except ε α} {f : α → β} {b : β} :
  x.map f = .ok b ↔ ∃ a, x = .ok a ∧ f a = b
  := by
  cases x <;> simp [Except.map]

/-- Checks in sequence give what is made of items that agree with those that are checked, when
each check does. -/
theorem mapM_eq_ok_of_forall₂ {γ : Type} {R : α → γ → Prop} {f : α → Except ε β} {g : γ → β}
    {as : List α} {cs : List γ} (h : List.Forall₂ R as cs)
    (each : ∀ {a c}, R a c → f a = .ok (g c)) :
  as.mapM f = .ok (cs.map g)
  := by
  induction h with
  | nil => rfl
  | cons head _ ih =>
      rw [List.mapM_cons, each head, ih]
      rfl

/-! ## Results -/

theorem toOption_ok (a : α) :
  (.ok a : Except ε α).toOption = some a
  := by
  rfl

/-- The result of a check that goes on. -/
theorem toOption_bind (x : Except ε α) (f : α → Except ε β) :
  (x >>= f).toOption = x.toOption.bind fun a => (f a).toOption
  := by
  cases x <;> rfl

/-- The result of a check whose result is made into something. -/
theorem toOption_map (x : Except ε α) (f : α → β) :
  (x.map f).toOption = x.toOption.map f
  := by
  cases x <;> rfl

/-- Two checks that go on have results that agree when their parts have. -/
theorem toOption_bind_eq_map {x x' : Except ε α} {f f' : α → Except ε β} {change : α → α}
    {change' : β → β} (first : x'.toOption = x.toOption.map change)
    (rest : ∀ a, (f' (change a)).toOption = (f a).toOption.map change') :
  (x' >>= f').toOption = (x >>= f).toOption.map change'
  := by
  rw [toOption_bind, toOption_bind, first, Option.bind_map, Option.map_bind]
  congr 1
  ext1 a
  apply rest

/-- Checks of one result give it both, or they end with a fault both. -/
theorem error_or_ok_of_toOption_eq {x y : Except ε α} (h : x.toOption = y.toOption) :
  (∃ fault fault', x = .error fault ∧ y = .error fault') ∨ ∃ a, x = .ok a ∧ y = .ok a
  := by
  cases x with
  | error fault =>
      cases y with
      | error fault' =>
          left
          use fault, fault'
      | ok _ => cases h
  | ok a =>
      cases y with
      | error _ => cases h
      | ok _ =>
          obtain rfl := Option.some.inj h
          right
          use a

/-! ## What is reached -/

/-- The items up to the first one that has a fault, with this one. -/
def reached (f : α → Option ε) : List α → List α
  | [] => []
  | a :: as => a :: if f a = none then reached f as else []

/-- All items are reached when there is no fault. -/
theorem reached_eq_self {f : α → Option ε} {as : List α} (h : as.findSome? f = none) :
  reached f as = as
  := by
  induction as with
  | nil => rfl
  | cons a as ih =>
      rw [List.findSome?_eq_none_iff, List.forall_mem_cons, ← List.findSome?_eq_none_iff] at h
      rw [reached, if_pos h.1, ih h.2]

/-- The first fault is decided by what is reached. -/
theorem findSome?_eq_some_of_reached_isPrefix {f : α → Option ε} {as bs : List α} {fault : ε}
    (h : as.findSome? f = some fault) (shared : reached f as <+: bs) :
  bs.findSome? f = some fault
  := by
  induction as generalizing bs with
  | nil => cases h
  | cons a as ih =>
      obtain ⟨rest, rfl⟩ := shared
      rw [reached, List.cons_append, List.findSome?_cons]
      rw [List.findSome?_cons] at h
      cases found : f a with
      | some first =>
          rw [found] at h
          apply h
      | none =>
          rw [found] at h
          rw [if_pos rfl]
          apply ih h (List.prefix_append _ _)

end ContractBindings.Fault
