import ContractBindings.Proofs.Name.Distinct
import ContractBindings.Proofs.Slot.Within

/-!
# Names of fields

The fields of a slot that comes out of a check are called by names that are not empty, at every
depth, since components without a name are called by their position.  So are the slots that
stand side by side in an event, a function or a call, as soon as they are given their names.
-/

namespace ContractBindings

namespace Slot

mutual

/-- All fields inside a slot have names. -/
def Spoken : Slot → Prop
  | ⟨_, _, _, _, fields⟩ => SpokenAll fields

/-- Slots that have names, as all fields inside have. -/
def SpokenAll : List Slot → Prop
  | [] => True
  | s :: ss => s.name ≠ "" ∧ s.Spoken ∧ SpokenAll ss

end

theorem spoken_renamed_iff (name : String) (s : Slot) :
  (s.renamed name).Spoken ↔ s.Spoken
  := by
  obtain ⟨_, type, indexed, shape, fields⟩ := s
  rfl

theorem spokenAll_iff (slots : List Slot) :
  SpokenAll slots ↔ ∀ s ∈ slots, s.name ≠ "" ∧ s.Spoken
  := by
  induction slots with
  | nil => simp [SpokenAll]
  | cons s ss ih => rw [SpokenAll, List.forall_mem_cons, ih, and_assoc]

theorem name_recorded (s : Slot) :
  s.recorded.name = s.name
  := by
  rw [recorded]
  split <;> rfl

theorem spoken_recorded {s : Slot} (h : s.Spoken) :
  s.recorded.Spoken
  := by
  rw [recorded]
  split
  · trivial
  · apply h

/-- Slots that stand side by side have names. -/
theorem spokenAll_named {word : String} (spelled : word ≠ "") (taken : List String)
    {slots : List Slot} (h : ∀ s ∈ slots, s.Spoken) :
  SpokenAll (named word taken slots)
  := by
  apply (spokenAll_iff _).mpr
  intro s member
  constructor
  · apply Name.siblings_ne_empty spelled taken (slots.map (·.name))
    rw [← map_name_named]
    apply List.mem_map_of_mem member
  · obtain ⟨t, there, name, rfl⟩ := exists_renamed_of_mem_named member
    apply (spoken_renamed_iff name t).mpr (h t there)

/-- Components that stand side by side are all given names. -/
theorem spoken_holdsOfSiblings :
  HoldsOfSiblings fun names => ∀ name ∈ names, name ≠ ""
  := by
  constructor
  · apply List.forall_mem_nil
  · intro names
    apply Name.siblings_ne_empty
    decide

mutual

/-- A slot whose fields are called by names that are not empty, at every depth. -/
theorem spoken_of_within {s : Slot} (h : s.Within fun names => ∀ name ∈ names, name ≠ "") :
  s.Spoken
  := by
  obtain ⟨name, type, indexed, shape, fields⟩ := s
  apply spokenAll_of_withinAll h.1 h.2

/-- The same for slots that stand side by side. -/
theorem spokenAll_of_withinAll {slots : List Slot}
    (named : ∀ name ∈ slots.map (·.name), name ≠ "")
    (h : WithinAll (fun names => ∀ name ∈ names, name ≠ "") slots) :
  SpokenAll slots
  := by
  cases slots with
  | nil => trivial
  | cons s ss =>
      obtain ⟨first, later⟩ := List.forall_mem_cons.mp named
      use first, spoken_of_within h.1
      apply spokenAll_of_withinAll later h.2

end

end Slot

namespace Parameter

theorem Checked.forall_spoken {ps : List Parameter} {slots : List Slot} (h : Checked ps slots) :
  ∀ s ∈ slots, s.Spoken
  := by
  intro s member
  apply Slot.spoken_of_within
  apply h.forall_within Slot.spoken_holdsOfSiblings s member

end Parameter

/-! ## Members of an interface that passes its check -/

/-- The parameters of an event are called like siblings, whether they are recorded as a digest or
not. -/
theorem Event.map_name_recorded (e : Event Slot) :
  e.recorded.map (·.name)
    = Name.siblings Source.eventParameters.word [] (e.inputs.map (·.name))
  := by
  rw [recorded, List.map_map, ← Slot.map_name_named]
  apply List.map_congr_left
  intro s _
  apply Slot.name_recorded

theorem Event.spokenAll_recorded {e : Event Slot} (h : ∀ s ∈ e.inputs, s.Spoken) :
  Slot.SpokenAll e.recorded
  := by
  have parameters : Slot.SpokenAll e.parameters := by
    apply Slot.spokenAll_named (Source.word_ne_empty _) _ h
  rw [Slot.spokenAll_iff] at parameters ⊢
  rw [recorded, List.forall_mem_map]
  intro s member
  obtain ⟨named, spoken⟩ := parameters s member
  rw [Slot.name_recorded]
  use named, Slot.spoken_recorded spoken

theorem Call.spokenAll_namedInputs {c : Call Slot} (h : ∀ s ∈ c.inputs, s.Spoken) :
  Slot.SpokenAll c.namedInputs
  := by
  apply Slot.spokenAll_named (Source.word_ne_empty _) _ h

theorem Call.spokenAll_namedOutputs {c : Call Slot} (h : ∀ s ∈ c.outputs, s.Spoken) :
  Slot.SpokenAll c.namedOutputs
  := by
  apply Slot.spokenAll_named (Source.word_ne_empty _) _ h

theorem Function.spokenAll_arguments {f : Function Slot} (h : ∀ s ∈ f.inputs, s.Spoken) :
  Slot.SpokenAll f.arguments
  := by
  apply Slot.spokenAll_named _ _ h
  decide

theorem Function.spokenAll_results {f : Function Slot} (h : ∀ s ∈ f.outputs, s.Spoken) :
  Slot.SpokenAll f.results
  := by
  apply (Slot.spokenAll_iff _).mpr
  intro s member
  obtain ⟨t, there, position, rfl⟩ := exists_renamed_of_mem_results member
  constructor
  · apply Name.append_ne_empty_of_left (by decide)
  · apply (Slot.spoken_renamed_iff _ t).mpr (h t there)

namespace Interface

variable {i : Interface Parameter} {j : Interface Slot} (h : i.check? = .ok j)

include h

theorem spoken_namedEvents :
  ∀ x ∈ j.namedEvents, ∀ s ∈ x.2.inputs, s.Spoken
  := by
  intro x member
  obtain ⟨y, -, checked⟩ := exists_of_forall₂ (forall₂_namedEvents h) member
  apply checked.inputs.forall_spoken

theorem spoken_namedFunctions (allowed : List String) :
  ∀ x ∈ j.namedFunctions allowed,
    (∀ s ∈ x.2.inputs, s.Spoken) ∧ ∀ s ∈ x.2.outputs, s.Spoken
  := by
  intro x member
  obtain ⟨y, -, checked⟩ := exists_of_forall₂ (forall₂_namedFunctions allowed h) member
  use checked.inputs.forall_spoken
  apply checked.outputs.forall_spoken

theorem spoken_namedCalls :
  ∀ x ∈ j.namedCalls, (∀ s ∈ x.2.inputs, s.Spoken) ∧ ∀ s ∈ x.2.outputs, s.Spoken
  := by
  intro x member
  obtain ⟨y, -, checked⟩ := exists_of_forall₂ (forall₂_namedCalls h) member
  use checked.inputs.forall_spoken
  apply checked.outputs.forall_spoken

end Interface

end ContractBindings
