import ContractBindings.Proofs.Fault
import ContractBindings.Proofs.Types.Accepted
import ContractBindings.Struct.Property

/-!
# Slots after a check

What the check of a parameter says of it.  A parameter that passes has a slot under every name
and stem: the slot that the check gives, with this name instead of the declared one
(`Parameter.slot?_of_check?`).  So it has a property at every position of a source, too, which
is made from the slot as the source records it (`Parameter.property?_of_check?`).
-/

namespace ContractBindings

namespace Slot

/-- The slot under another name. -/
def renamed (name : String) (s : Slot) : Slot :=
  { s with name := name }

/-- A slot among named ones is one of those that were named, under another name. -/
theorem exists_renamed_of_mem_named {word : String} {taken : List String} {slots : List Slot}
    {s : Slot} (h : s ∈ named word taken slots) :
  ∃ t ∈ slots, ∃ name, s = t.renamed name
  := by
  obtain ⟨position, bound, rfl⟩ := List.mem_iff_getElem.mp h
  rw [length_named] at bound
  exact ⟨slots[position], List.getElem_mem bound, _, List.getElem_zipWith⟩

/-- The slot under which a source records a value. -/
def recordedBy (source : Source) (s : Slot) : Slot :=
  if source.isEvent then s.recorded else s

theorem recordedBy_eq (source : Source) (s : Slot) :
  s.recordedBy source
    = if source.isEvent && s.indexed && Topic.isHashed s.type then
        { s with shape := .scalar Topic.digest, fields := [] }
      else
        s
  := by
  rw [recordedBy, recorded]
  cases source.isEvent <;> rfl

/-- The getter of a slot with its structs. -/
def property (source : Source) (stem : String) (position : Int) (s : Slot) : Property :=
  ⟨s.getter source stem position, s.structs stem⟩

end Slot

namespace Topic

/-- An indexed value is recorded under its declared type unless it is hashed. -/
theorem typeOf_eq (type : String) :
  typeOf type = if isHashed type then digest.name else type
  := by
  by_cases hashed : typeOf type = type
  · simp [isHashed, hashed]
  · have digested : typeOf type = digest.name := by
      rw [typeOf, ite_eq_left_iff]
      intro kept
      apply absurd (if_neg kept) hashed
    simp [isHashed, digested]

/-- A digest has its shape under its name. -/
theorem shape?_digest :
  (TypeExpr.ofString digest.name).shape? = .ok (.scalar digest)
  := by
  decide +kernel

end Topic

namespace Parameter

/-- A parameter that passes the check is the slot of its name and its shape. -/
theorem check?_eq_ok_iff {context : String} {p : Parameter} {s : Slot} :
  p.check? context = .ok s
    ↔ ∃ shape fields,
      (TypeExpr.ofString p.type).check? (contextIn context p.label) = .ok shape
      ∧ (if shape.isTuple then checkComponents? (contextIn context p.label) p.components
          else .ok []) = .ok fields
      ∧ s = ⟨p.label, p.type, p.indexed, shape, fields⟩
  := by
  obtain ⟨type, name, indexed, components⟩ := p
  rw [check?, Fault.bind_eq_ok_iff]
  apply exists_congr
  intro shape
  by_cases tuple : shape.isTuple
  · simp only [tuple, if_true, Fault.bind_eq_ok_iff]
    constructor
    · rintro ⟨checked, fields, inside, h⟩
      use fields, checked, inside, (Except.ok.inj h).symm
    · rintro ⟨fields, checked, inside, rfl⟩
      use checked, fields, inside
      rfl
  · simp only [tuple]
    constructor
    · rintro ⟨checked, h⟩
      use [], checked, rfl, (Except.ok.inj h).symm
    · rintro ⟨fields, checked, ⟨⟩, rfl⟩
      use checked
      rfl

theorem checkAll?_cons_eq_ok_iff {context : String} {p : Parameter} {ps : List Parameter}
    {slots : List Slot} :
  checkAll? context (p :: ps) = .ok slots
    ↔ ∃ s ss, p.check? context = .ok s ∧ checkAll? context ps = .ok ss ∧ slots = s :: ss
  := by
  rw [checkAll?, Fault.bind_eq_ok_iff]
  apply exists_congr
  intro s
  rw [Fault.bind_eq_ok_iff]
  constructor
  · rintro ⟨checked, ss, rest, h⟩
    use ss, checked, rest, (Except.ok.inj h).symm
  · rintro ⟨ss, checked, rest, rfl⟩
    use checked, ss, rest
    rfl

/-- The fields of a tuple are the slots of its components, named as siblings. -/
theorem exists_named_of_checkComponents? {context : String} {ps : List Parameter}
    {fields : List Slot} (h : checkComponents? context (some ps) = .ok fields) :
  ∃ slots, checkAll? context ps = .ok slots ∧ fields = Slot.named Slot.componentWord [] slots
  := by
  obtain _ | ⟨p, ps⟩ := ps
  · cases h
  · rw [checkComponents?, Fault.bind_eq_ok_iff] at h
    obtain ⟨slots, checked, h⟩ := h
    use slots, checked, (Except.ok.inj h).symm

/-- The slots of parameters carry their names. -/
theorem map_name_of_checkAll? {context : String} {ps : List Parameter} {slots : List Slot}
    (h : checkAll? context ps = .ok slots) :
  slots.map (·.name) = ps.map label
  := by
  induction ps generalizing slots with
  | nil =>
      obtain rfl := Except.ok.inj h
      rfl
  | cons p ps ih =>
      obtain ⟨s, ss, checked, rest, rfl⟩ := checkAll?_cons_eq_ok_iff.mp h
      obtain ⟨shape, fields, -, -, rfl⟩ := check?_eq_ok_iff.mp checked
      rw [List.map_cons, List.map_cons, ih rest]

theorem length_of_checkAll? {context : String} {ps : List Parameter} {slots : List Slot}
    (h : checkAll? context ps = .ok slots) :
  slots.length = ps.length
  := by
  simpa using congrArg List.length (map_name_of_checkAll? h)

mutual

/-- A parameter that passes the check has a slot under every name. -/
theorem slot?_of_check? {context : String} {p : Parameter} {s : Slot}
    (h : p.check? context = .ok s) (stem name : String) :
  p.slot? stem name = .ok (s.renamed name)
  := by
  obtain ⟨type, label, indexed, components⟩ := p
  obtain ⟨shape, fields, checked, inside, rfl⟩ := check?_eq_ok_iff.mp h
  rw [slot?, TypeExpr.shape?_of_check? checked]
  change (if shape.isTuple then _ else _) = _
  by_cases tuple : shape.isTuple
  · rw [if_pos tuple] at inside ⊢
    rw [fields?_of_checkComponents? inside]
    rfl
  · rw [if_neg tuple] at inside ⊢
    obtain rfl := Except.ok.inj inside
    rfl

/-- The components of a tuple that passes the check have the slots that the check gives. -/
theorem fields?_of_checkComponents? {context : String} {components : Option (List Parameter)}
    {fields : List Slot} (h : checkComponents? context components = .ok fields)
    (stem name : String) :
  fields? stem name components = .ok fields
  := by
  obtain _ | _ | ⟨p, ps⟩ := components
  · cases h
  · cases h
  · obtain ⟨slots, checked, rfl⟩ := exists_named_of_checkComponents? h
    rw [fields?, ← map_name_of_checkAll? checked, slots?_of_checkAll? checked]
    · rfl
    · rw [Name.length_siblings, List.length_map, length_of_checkAll? checked]

/-- Parameters side by side that pass the check have slots under all names. -/
theorem slots?_of_checkAll? {context : String} {ps : List Parameter} {slots : List Slot}
    (h : checkAll? context ps = .ok slots) (stem : String) (names : List String)
    (length : names.length = ps.length) :
  slots? stem names ps = .ok (List.zipWith Slot.renamed names slots)
  := by
  obtain _ | ⟨p, ps⟩ := ps
  · obtain rfl := Except.ok.inj h
    rw [List.zipWith_nil_right]
    cases names <;> rfl
  · obtain ⟨s, ss, checked, rest, rfl⟩ := checkAll?_cons_eq_ok_iff.mp h
    obtain _ | ⟨name, names⟩ := names
    · cases length
    · rw [slots?, slot?_of_check? checked,
        slots?_of_checkAll? rest stem names (Nat.succ.inj length)]
      rfl

end

/-- The declared name of a parameter does not matter to its slot. -/
theorem slot?_rename (stem name : String) (declared : Option String) (p : Parameter) :
  ({ p with name := declared } : Parameter).slot? stem name = p.slot? stem name
  := by
  obtain ⟨type, name, indexed, components⟩ := p
  rw [slot?, slot?]

/-- A parameter of the type of a digest has the slot of a digest. -/
theorem slot?_digest (stem name : String) (p : Parameter) :
  ({ p with type := Topic.digest.name } : Parameter).slot? stem name
    = .ok ⟨name, Topic.digest.name, p.indexed, .scalar Topic.digest, []⟩
  := by
  rw [slot?, Topic.shape?_digest]
  rfl

/-- The type under which a source records a parameter is the declared one, or that of a
digest when an event hashes it. -/
theorem typeAt_eq (source : Source) (p : Parameter) :
  p.typeAt source
    = if source.isEvent && p.indexed && Topic.isHashed p.type then Topic.digest.name else p.type
  := by
  rw [typeAt]
  cases (source.isEvent && p.indexed) with
  | false => rfl
  | true => apply Topic.typeOf_eq

/-- A parameter that passes the check has a property at every position of a source, which is
made from the slot under which the source records it. -/
theorem property?_of_check? {context : String} {p : Parameter} {s : Slot}
    (h : p.check? context = .ok s) (source : Source) (stem : String) (position : Int)
    {name : String} (named : name ≠ "") :
  ({ p with name := some name } : Parameter).property? source stem position
    = .ok (((s.renamed name).recordedBy source).property source stem position)
  := by
  have slot := slot?_of_check? h stem name
  obtain ⟨shape, fields, -, -, rfl⟩ := check?_eq_ok_iff.mp h
  have nameAt_eq : ({ p with name := some name } : Parameter).nameAt source position = name := by
    apply if_neg named
  rw [property?, nameAt_eq, typeAt_eq, Slot.recordedBy_eq]
  -- A hashed parameter is taken for a digest, whatever its declared type and its components.
  by_cases hashed : (source.isEvent && p.indexed && Topic.isHashed p.type) = true
  · rw [if_pos hashed, slot?_digest, if_pos]
    · rfl
    · apply hashed
  · rw [if_neg hashed, slot?_rename stem name (some name) p, slot, if_neg]
    · rfl
    · apply hashed

end Parameter

end ContractBindings
