import ContractBindings.Interface.Check
import ContractBindings.Proofs.Slot.Checked
import ContractBindings.Section.Calls
import ContractBindings.Section.Contract
import ContractBindings.Section.Events

/-!
# Members after a check

An interface that passes its check has the events, the functions and the calls that were
declared, under the same names and in the same order.  Only their parameters are turned into
slots.
-/

namespace ContractBindings

/-- Parameters that pass the check, with the slots that it gives. -/
def Parameter.Checked (ps : List Parameter) (slots : List Slot) : Prop :=
  ∃ context, checkAll? context ps = .ok slots

/-- A function whose parameters pass the check, with the function of their slots. -/
structure Function.Checked (f : Function Parameter) (f' : Function Slot) : Prop where
  name : f'.name = f.name
  inputs : Parameter.Checked f.inputs f'.inputs
  outputs : Parameter.Checked f.outputs f'.outputs
  mutability : f'.mutability = f.mutability

/-- An event whose parameters pass the check, with the event of their slots. -/
structure Event.Checked (e : Event Parameter) (e' : Event Slot) : Prop where
  name : e'.name = e.name
  inputs : Parameter.Checked e.inputs e'.inputs

/-- A call whose parameters pass the check, with the call of their slots. -/
structure Call.Checked (c : Call Parameter) (c' : Call Slot) : Prop where
  name : c'.name = c.name
  inputs : Parameter.Checked c.inputs c'.inputs
  outputs : Parameter.Checked c.outputs c'.outputs

/-- A member whose parameters pass the check, with the member of their slots. -/
inductive Member.Checked : Member Parameter → Member Slot → Prop where
  | function {f f'} (h : Function.Checked f f') : Checked (function f) (function f')
  | constructor {ps slots} (h : Parameter.Checked ps slots) (mutability : String) :
    Checked (constructor ps mutability) (constructor slots mutability)
  | event {e e'} (h : Event.Checked e e') : Checked (event e) (event e')
  | fallback (mutability : String) : Checked (fallback mutability) (fallback mutability)

/-- No parameters pass the check. -/
theorem Parameter.Checked.nil :
  Checked [] []
  := by
  use ""
  rfl

theorem Parameter.Checked.length_eq {ps : List Parameter} {slots : List Slot}
    (h : Checked ps slots) :
  slots.length = ps.length
  := by
  obtain ⟨context, checked⟩ := h
  apply length_of_checkAll? checked

/-- The slots of parameters carry their labels. -/
theorem Parameter.Checked.map_name {ps : List Parameter} {slots : List Slot}
    (h : Checked ps slots) :
  slots.map (·.name) = ps.map label
  := by
  obtain ⟨context, checked⟩ := h
  apply map_name_of_checkAll? checked

/-- A result of a function is one of the outputs, called by its position. -/
theorem Function.exists_renamed_of_mem_results {f : Function Slot} {s : Slot}
    (h : s ∈ f.results) :
  ∃ t ∈ f.outputs, ∃ position : Nat, s = t.renamed ("value" ++ toString position)
  := by
  obtain ⟨position, bound, rfl⟩ := List.mem_mapIdx.mp h
  exact ⟨f.outputs[position], List.getElem_mem bound, position, rfl⟩

/-- A function can be read if and only if the function of its slots can. -/
theorem Function.Checked.isReadable_eq {f : Function Parameter} {f' : Function Slot}
    (h : Checked f f') (allowed : List String) :
  f'.isReadable allowed = f.isReadable allowed
  := by
  have empty : f'.outputs.isEmpty = f.outputs.isEmpty := by
    rw [Bool.eq_iff_iff, List.isEmpty_iff_length_eq_zero, List.isEmpty_iff_length_eq_zero,
      h.outputs.length_eq]
  rw [isReadable, isReadable, empty, h.mutability]

namespace Member

/-- A member that passes the check has slots for its parameters. -/
theorem checked_of_check? {m : Member Parameter} {m' : Member Slot} (h : m.check? = .ok m') :
  Checked m m'
  := by
  cases m with
  | function f =>
      obtain ⟨inputs, checked, h⟩ := Fault.bind_eq_ok_iff.mp h
      obtain ⟨outputs, checked', h⟩ := Fault.bind_eq_ok_iff.mp h
      obtain rfl := Except.ok.inj h
      apply Checked.function ⟨rfl, ⟨_, checked⟩, ⟨_, checked'⟩, rfl⟩
  | constructor parameters mutability =>
      obtain ⟨inputs, checked, h⟩ := Fault.bind_eq_ok_iff.mp h
      obtain rfl := Except.ok.inj h
      apply Checked.constructor ⟨_, checked⟩
  | event e =>
      obtain ⟨inputs, checked, h⟩ := Fault.bind_eq_ok_iff.mp h
      obtain rfl := Except.ok.inj h
      apply Checked.event ⟨rfl, ⟨_, checked⟩⟩
  | fallback mutability =>
      obtain rfl := Except.ok.inj h
      apply Checked.fallback

/-- Members that pass the check have slots for their parameters. -/
theorem forall₂_checked_of_checkAll? {ms : List (Member Parameter)} {ms' : List (Member Slot)}
    (h : checkAll? ms = .ok ms') :
  List.Forall₂ Checked ms ms'
  := by
  induction ms generalizing ms' with
  | nil =>
      obtain rfl := Except.ok.inj h
      apply List.Forall₂.nil
  | cons m ms ih =>
      obtain ⟨m', checked, h⟩ := Fault.bind_eq_ok_iff.mp h
      obtain ⟨rest', rest, h⟩ := Fault.bind_eq_ok_iff.mp h
      obtain rfl := Except.ok.inj h
      apply List.Forall₂.cons (checked_of_check? checked) (ih rest)

variable {m : Member Parameter} {m' : Member Slot}

theorem rel_event? (h : Checked m m') :
  Option.Rel Event.Checked m.event? m'.event?
  := by
  cases h with
  | event h => apply Option.Rel.some h
  | _ => apply Option.Rel.none

theorem rel_function? (h : Checked m m') :
  Option.Rel Function.Checked m.function? m'.function?
  := by
  cases h with
  | function h => apply Option.Rel.some h
  | _ => apply Option.Rel.none

theorem callName_of_checked (h : Checked m m') :
  m'.callName = m.callName
  := by
  cases h with
  | function h => rw [callName, callName, h.name]
  | event h => rw [callName, callName, h.name]
  | _ => rfl

theorem isCall_of_checked (h : Checked m m') :
  m'.isCall = m.isCall
  := by
  cases h with
  | function h => rw [isCall, isCall, h.mutability]
  | _ => rfl

theorem inputs_of_checked (h : Checked m m') :
  Parameter.Checked m.inputs m'.inputs
  := by
  cases h with
  | function h => apply h.inputs
  | constructor h => apply h
  | event h => apply h.inputs
  | fallback => apply Parameter.Checked.nil

theorem outputs_of_checked (h : Checked m m') :
  Parameter.Checked m.outputs m'.outputs
  := by
  cases h with
  | function h => apply h.outputs
  | _ => apply Parameter.Checked.nil

theorem rel_call? (h : Checked m m') :
  Option.Rel Call.Checked m.call? m'.call?
  := by
  rw [call?, call?, isCall_of_checked h]
  split
  · apply Option.Rel.some ⟨callName_of_checked h, inputs_of_checked h, outputs_of_checked h⟩
  · apply Option.Rel.none

end Member

/-! ## The lists that the sections go through -/

section

variable {α β : Type} {R : α → β → Prop} {as : List α} {bs : List β}

/-- An item of the second list agrees with one of the first. -/
theorem exists_of_forall₂ (h : List.Forall₂ R as bs) {b : β} (member : b ∈ bs) :
  ∃ a, R a b
  := by
  induction h with
  | nil => cases member
  | @cons a _ _ _ head _ ih =>
      obtain rfl | later := List.mem_cons.mp member
      · use a, head
      · apply ih later

/-- Items at the same position agree. -/
theorem getElem?_of_forall₂ (h : List.Forall₂ R as bs) {k : Nat} {a : α} (nth : as[k]? = some a) :
  ∃ b, bs[k]? = some b ∧ R a b
  := by
  induction h generalizing k with
  | nil => cases nth
  | cons head _ ih =>
      cases k with
      | zero =>
          obtain rfl := Option.some.inj nth
          exact ⟨_, rfl, head⟩
      | succ k => apply ih nth

/-- A property that items share if they agree is one of all items of both lists or of neither. -/
theorem forall_iff_of_forall₂ {P : α → Prop} {Q : β → Prop} (same : ∀ a b, R a b → (Q b ↔ P a))
    (h : List.Forall₂ R as bs) :
  (∀ b ∈ bs, Q b) ↔ ∀ a ∈ as, P a
  := by
  induction h with
  | nil => simp
  | cons head _ ih => rw [List.forall_mem_cons, List.forall_mem_cons, same _ _ head, ih]

/-- Items that agree agree under the same names, too. -/
theorem Name.forall₂_zip (h : List.Forall₂ R as bs) (names : List String) :
  List.Forall₂ (fun x y => y.1 = x.1 ∧ R x.2 y.2) (names.zip as) (names.zip bs)
  := by
  induction h generalizing names with
  | nil =>
      rw [List.zip_nil_right, List.zip_nil_right]
      apply List.Forall₂.nil
  | cons head _ ih =>
      obtain _ | ⟨name, names⟩ := names
      · apply List.Forall₂.nil
      · apply List.Forall₂.cons ⟨rfl, head⟩ (ih names)

/-- Items that agree on a property agree on it in order. -/
theorem map_eq_map_of_forall₂ {γ : Type} {f : α → γ} {g : β → γ}
    (same : ∀ a b, R a b → g b = f a) (h : List.Forall₂ R as bs) :
  bs.map g = as.map f
  := by
  induction h with
  | nil => rfl
  | cons head _ ih => rw [List.map_cons, List.map_cons, same _ _ head, ih]

/-- Items that agree on their candidates are given the same distinct names. -/
theorem Name.forall₂_zip_distinct {f : α → String} {g : β → String}
    (same : ∀ a b, R a b → g b = f a) (h : List.Forall₂ R as bs) :
  List.Forall₂ (fun x y => y.1 = x.1 ∧ R x.2 y.2)
    ((distinct (as.map f)).zip as) ((distinct (bs.map g)).zip bs)
  := by
  rw [map_eq_map_of_forall₂ same h]
  apply forall₂_zip h

end

namespace Interface

variable {i : Interface Parameter} {j : Interface Slot}

/-- The slots of an interface that passes the check are those of its members. -/
theorem name_and_members_of_check? (h : i.check? = .ok j) :
  j.name = i.name ∧ List.Forall₂ Member.Checked i.members j.members
  := by
  obtain ⟨members, checked, h⟩ := Fault.bind_eq_ok_iff.mp h
  obtain rfl := Except.ok.inj h
  use rfl
  apply Member.forall₂_checked_of_checkAll? checked

/-- The events of an interface are those of its slots. -/
theorem forall₂_events (h : i.check? = .ok j) :
  List.Forall₂ Event.Checked i.events j.events
  := by
  apply List.rel_filterMap _ (name_and_members_of_check? h).2
  apply Member.rel_event?

/-- The calls of an interface are those of its slots. -/
theorem forall₂_calls (h : i.check? = .ok j) :
  List.Forall₂ Call.Checked i.calls j.calls
  := by
  apply List.rel_filterMap _ (name_and_members_of_check? h).2
  apply Member.rel_call?

/-- The functions of an interface that can be read are those of its slots. -/
theorem forall₂_readable (allowed : List String) (h : i.check? = .ok j) :
  List.Forall₂ Function.Checked (i.readable allowed) (j.readable allowed)
  := by
  apply List.rel_filter
  · intro f f' checked
    simp only [checked.isReadable_eq]
  · apply List.rel_filterMap _ (name_and_members_of_check? h).2
    apply Member.rel_function?

/-- All events are given names. -/
theorem map_snd_namedEvents {α : Type} (i : Interface α) :
  i.namedEvents.map (·.2) = i.events
  := by
  apply List.map_snd_zip
  simp

/-- All calls are given names. -/
theorem map_snd_namedCalls {α : Type} (i : Interface α) :
  i.namedCalls.map (·.2) = i.calls
  := by
  apply List.map_snd_zip
  simp [callCandidates]

/-- All functions that can be read are given names. -/
theorem map_snd_namedFunctions {α : Type} (allowed : List String) (i : Interface α) :
  (i.namedFunctions allowed).map (·.2) = i.readable allowed
  := by
  apply List.map_snd_zip
  simp [methodCandidates]

/-- The events of an interface have the names of those of its slots. -/
theorem forall₂_namedEvents (h : i.check? = .ok j) :
  List.Forall₂ (fun x y => y.1 = x.1 ∧ Event.Checked x.2 y.2) i.namedEvents j.namedEvents
  := by
  apply Name.forall₂_zip_distinct _ (forall₂_events h)
  intro e e' checked
  rw [checked.name]

/-- The calls of an interface have the names of those of its slots. -/
theorem forall₂_namedCalls (h : i.check? = .ok j) :
  List.Forall₂ (fun x y => y.1 = x.1 ∧ Call.Checked x.2 y.2) i.namedCalls j.namedCalls
  := by
  apply Name.forall₂_zip_distinct _ (forall₂_calls h)
  intro c c' checked
  rw [checked.name]

/-- The functions of an interface that can be read have the names of those of its slots. -/
theorem forall₂_namedFunctions (allowed : List String) (h : i.check? = .ok j) :
  List.Forall₂ (fun x y => y.1 = x.1 ∧ Function.Checked x.2 y.2)
    (i.namedFunctions allowed) (j.namedFunctions allowed)
  := by
  apply Name.forall₂_zip_distinct _ (forall₂_readable allowed h)
  intro f f' checked
  rw [checked.name]

end Interface

end ContractBindings
