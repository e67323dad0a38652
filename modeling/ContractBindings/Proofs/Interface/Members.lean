import ContractBindings.Proofs.Interface.Checked

/-!
# Members are checked one by one

The check of an interface passes with slots for its members exactly when the check of each member
does, and what it gives for a member depends on this member only.  So the slots of the first
members are the first slots, and the slots of the members of some kinds are those slots that are
of these kinds.
-/

namespace ContractBindings

namespace Member

variable {α : Type}

/-- Whether a member is an event. -/
def isEvent : Member α → Bool
  | event _ => true
  | _ => false

/-- Whether a member is a function. -/
def isFunction : Member α → Bool
  | function _ => true
  | _ => false

/-- A member that passes the check, with what the check gives. -/
def Passes (m : Member Parameter) (m' : Member Slot) : Prop :=
  m.check? = .ok m'

/-- What the check gives for a member is determined. -/
theorem rightUnique_passes :
  Relator.RightUnique Passes
  := by
  intro m m₁ m₂ h₁ h₂
  apply Except.ok.inj (h₁.symm.trans h₂)

/-- Members pass the check together if and only if each of them does. -/
theorem checkAll?_eq_ok_iff {ms : List (Member Parameter)} {ms' : List (Member Slot)} :
  checkAll? ms = .ok ms' ↔ List.Forall₂ Passes ms ms'
  := by
  induction ms generalizing ms' with
  | nil =>
      rw [List.forall₂_nil_left_iff]
      constructor
      · rintro ⟨⟩
        rfl
      · rintro rfl
        rfl
  | cons m ms ih =>
      rw [checkAll?, Fault.bind_eq_ok_iff, List.forall₂_cons_left_iff]
      constructor
      · rintro ⟨m', checked, h⟩
        obtain ⟨rest', rest, h⟩ := Fault.bind_eq_ok_iff.mp h
        use m', rest', checked, ih.mp rest
        apply (Except.ok.inj h).symm
      · rintro ⟨m', rest', checked, rest, rfl⟩
        use m', checked
        rw [ih.mpr rest]
        rfl

/-- The check keeps events apart from other members. -/
theorem isEvent_of_passes {m : Member Parameter} {m' : Member Slot} (h : Passes m m') :
  m'.isEvent = m.isEvent
  := by
  cases checked_of_check? h <;> rfl

/-- The check keeps functions apart from other members. -/
theorem isFunction_of_passes {m : Member Parameter} {m' : Member Slot} (h : Passes m m') :
  m'.isFunction = m.isFunction
  := by
  cases checked_of_check? h <;> rfl

end Member

namespace Interface

/-- The interface with members appended. -/
def extended {α : Type} (later : List (Member α)) (i : Interface α) : Interface α :=
  { i with members := i.members ++ later }

/-- An interface passes the check if and only if each of its members does. -/
theorem check?_eq_ok_iff {i : Interface Parameter} {j : Interface Slot} :
  i.check? = .ok j ↔ j.name = i.name ∧ List.Forall₂ Member.Passes i.members j.members
  := by
  rw [check?, Fault.bind_eq_ok_iff, ← Member.checkAll?_eq_ok_iff]
  constructor
  · rintro ⟨members, checked, h⟩
    obtain rfl := Except.ok.inj h
    use rfl, checked
  · rintro ⟨name, checked⟩
    use j.members, checked
    rw [← name]
    rfl

/-- An interface passes the check if it does with members appended, and its slots are the first
ones. -/
theorem exists_check?_of_extended {i : Interface Parameter} {later : List (Member Parameter)}
    {j' : Interface Slot} (h : (i.extended later).check? = .ok j') :
  ∃ j, i.check? = .ok j ∧ j.name = j'.name ∧ j.members <+: j'.members
  := by
  obtain ⟨name, each⟩ := check?_eq_ok_iff.mp h
  have first := List.forall₂_take i.members.length each
  rw [extended, List.take_left] at first
  use ⟨j'.name, j'.members.take i.members.length⟩
  refine ⟨check?_eq_ok_iff.mpr ⟨name, first⟩, rfl, ?_⟩
  apply List.take_prefix

/-- Interfaces with the same members of some kinds have the same slots of these kinds. -/
theorem filter_members_eq_of_check? {p : Member Parameter → Bool} {q : Member Slot → Bool}
    (kept : ∀ {m m'}, Member.Passes m m' → q m' = p m) {i₁ i₂ : Interface Parameter}
    {j₁ j₂ : Interface Slot} (h₁ : i₁.check? = .ok j₁) (h₂ : i₂.check? = .ok j₂)
    (same : i₁.members.filter p = i₂.members.filter p) :
  j₁.members.filter q = j₂.members.filter q
  := by
  have passing : ∀ {i : Interface Parameter} {j : Interface Slot}, i.check? = .ok j →
      List.Forall₂ Member.Passes (i.members.filter p) (j.members.filter q) := by
    intro i j h
    apply List.rel_filter _ (check?_eq_ok_iff.mp h).2
    intro m m' passes
    simp only [kept passes]
  have first := passing h₁
  rw [same] at first
  apply List.right_unique_forall₂' Member.rightUnique_passes first (passing h₂)

end Interface

end ContractBindings
