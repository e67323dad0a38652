import ContractBindings.Proofs.Interface.Checked

/-!
# Names of fields at every depth

`Slot.Within P s` says that the names of the fields of `s` have the property `P` as a list, and so
have the names of their fields, at every depth.  In a slot that comes out of a check, the fields
of every tuple carry names that were given to siblings, and there are no other fields.  So
`Parameter.within_of_check?` needs `P` only of these names and of no names at all, which is
`Slot.HoldsOfSiblings P`.
-/

namespace ContractBindings

variable {P : List String → Prop}

namespace Slot

/-- A property of the names of components that stand side by side, and of no names at all. -/
structure HoldsOfSiblings (P : List String → Prop) : Prop where
  nil : P []
  siblings (names : List String) : P (Name.siblings componentWord [] names)

mutual

/-- The names of the fields have a property, at every depth. -/
def Within (P : List String → Prop) : Slot → Prop
  | ⟨_, _, _, _, fields⟩ => P (fields.map (·.name)) ∧ WithinAll P fields

/-- The same for slots that stand side by side. -/
def WithinAll (P : List String → Prop) : List Slot → Prop
  | [] => True
  | s :: ss => s.Within P ∧ WithinAll P ss

end

/-- The names of fields are not touched when a slot is called by another name. -/
theorem within_renamed_iff (name : String) (s : Slot) :
  (s.renamed name).Within P ↔ s.Within P
  := by
  obtain ⟨_, type, indexed, shape, fields⟩ := s
  rfl

theorem withinAll_iff (slots : List Slot) :
  WithinAll P slots ↔ ∀ s ∈ slots, s.Within P
  := by
  induction slots with
  | nil => simp [WithinAll]
  | cons s ss ih => rw [WithinAll, List.forall_mem_cons, ih]

/-- The names of the fields have the property, and so have the names of fields in each of them. -/
theorem within_iff (s : Slot) :
  s.Within P ↔ P (s.fields.map (·.name)) ∧ ∀ field ∈ s.fields, field.Within P
  := by
  obtain ⟨name, type, indexed, shape, fields⟩ := s
  rw [Within, withinAll_iff]

/-- The fields of slots are not touched when the slots are named. -/
theorem withinAll_named (word : String) (taken : List String) {slots : List Slot}
    (h : ∀ s ∈ slots, s.Within P) :
  WithinAll P (named word taken slots)
  := by
  apply (withinAll_iff _).mpr
  intro s member
  obtain ⟨t, there, name, rfl⟩ := exists_renamed_of_mem_named member
  apply (within_renamed_iff name t).mpr (h t there)

/-- A slot that is recorded as a digest has no fields. -/
theorem within_recorded (given : HoldsOfSiblings P) {s : Slot} (h : s.Within P) :
  s.recorded.Within P
  := by
  rw [recorded]
  split
  · exact ⟨given.nil, trivial⟩
  · apply h

end Slot

namespace Parameter

mutual

/-- The fields in the slot of a parameter that passes the check are named as siblings. -/
theorem within_of_check? (given : Slot.HoldsOfSiblings P) {context : String} {p : Parameter}
    {s : Slot} (h : p.check? context = .ok s) :
  s.Within P
  := by
  obtain ⟨type, name, indexed, components⟩ := p
  obtain ⟨shape, fields, -, inside, rfl⟩ := check?_eq_ok_iff.mp h
  by_cases tuple : shape.isTuple
  · rw [if_pos tuple] at inside
    apply within_of_checkComponents? given inside
  · rw [if_neg tuple] at inside
    obtain rfl := Except.ok.inj inside
    exact ⟨given.nil, trivial⟩

/-- The fields of a tuple that passes the check are named as siblings. -/
theorem within_of_checkComponents? (given : Slot.HoldsOfSiblings P) {context : String}
    {components : Option (List Parameter)} {fields : List Slot}
    (h : checkComponents? context components = .ok fields) :
  P (fields.map (·.name)) ∧ Slot.WithinAll P fields
  := by
  obtain _ | ps := components
  · cases h
  · obtain ⟨slots, checked, rfl⟩ := exists_named_of_checkComponents? h
    constructor
    · rw [Slot.map_name_named]
      apply given.siblings
    · apply Slot.withinAll_named
      apply forall_within_of_checkAll? given checked

/-- The fields in the slots of parameters that pass the check are named as siblings. -/
theorem forall_within_of_checkAll? (given : Slot.HoldsOfSiblings P) {context : String}
    {ps : List Parameter} {slots : List Slot} (h : checkAll? context ps = .ok slots) :
  ∀ s ∈ slots, s.Within P
  := by
  obtain _ | ⟨p, ps⟩ := ps
  · obtain rfl := Except.ok.inj h
    apply List.forall_mem_nil
  · obtain ⟨s, ss, checked, rest, rfl⟩ := checkAll?_cons_eq_ok_iff.mp h
    rw [List.forall_mem_cons]
    use within_of_check? given checked
    apply forall_within_of_checkAll? given rest

end

theorem Checked.forall_within (given : Slot.HoldsOfSiblings P) {ps : List Parameter}
    {slots : List Slot} (h : Checked ps slots) :
  ∀ s ∈ slots, s.Within P
  := by
  obtain ⟨context, checked⟩ := h
  apply forall_within_of_checkAll? given checked

end Parameter

/-! ## Members of an interface that passes its check -/

/-- The parameters of an event keep their fields when they are named, or lose all of them when they
are recorded as a digest. -/
theorem Event.withinAll_recorded (given : Slot.HoldsOfSiblings P) {e : Event Slot}
    (h : ∀ s ∈ e.inputs, s.Within P) :
  Slot.WithinAll P e.recorded
  := by
  have parameters := Slot.withinAll_named Source.eventParameters.word [] h
  rw [Slot.withinAll_iff] at parameters ⊢
  rw [recorded, List.forall_mem_map]
  intro s member
  apply Slot.within_recorded given (parameters s member)

/-- The fields of the outputs of a function are not touched when the outputs are named. -/
theorem Function.withinAll_results {f : Function Slot} (h : ∀ s ∈ f.outputs, s.Within P) :
  Slot.WithinAll P f.results
  := by
  apply (Slot.withinAll_iff _).mpr
  intro s member
  obtain ⟨t, there, position, rfl⟩ := exists_renamed_of_mem_results member
  apply (Slot.within_renamed_iff _ t).mpr (h t there)

end ContractBindings
