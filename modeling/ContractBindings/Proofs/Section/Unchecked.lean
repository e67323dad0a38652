import ContractBindings.Proofs.Interface.Checked
import ContractBindings.Proofs.Name.Distinct

/-!
# Sections without a check

The passes that make the classes of the three sections straight from the parameters as they are
declared may fail wherever they make a getter, a conversion or a struct.  After a check none of them
fails.  `Interface.eventPass?_of_check?`, `Interface.contractPass?_of_check?` and
`Interface.callPass?_of_check?` say that the three passes succeed on an interface that passes its
check, with the classes that are made from its slots.
-/

namespace ContractBindings

/-! ## Parameters that stand side by side -/

namespace Parameter

theorem properties?_of_names {context : String} {ps : List Parameter} {slots : List Slot}
    (h : checkAll? context ps = .ok slots) (source : Source) (stem : String) (position : Nat)
    {names : List String} (length : names.length = ps.length)
    (named : ∀ name ∈ names, name ≠ "") :
  properties? source stem position (List.zipWith renamed names ps)
    = .ok ((List.zipWith Slot.renamed names slots).mapIdx fun k s =>
        (s.recordedBy source).property source stem ((k + position : Nat) : Int))
  := by
  induction ps generalizing names slots position with
  | nil =>
      obtain rfl := Except.ok.inj h
      rw [List.zipWith_nil_right, List.zipWith_nil_right]
      rfl
  | cons p ps ih =>
      obtain ⟨s, ss, checked, rest, rfl⟩ := checkAll?_cons_eq_ok_iff.mp h
      obtain _ | ⟨name, names⟩ := names
      · cases length
      · obtain ⟨first, later⟩ := List.forall_mem_cons.mp named
        rw [List.zipWith_cons_cons, properties?, renamed, property?_of_check? checked _ _ _ first,
          ih rest (position + 1) (Nat.succ.inj length) later, List.zipWith_cons_cons,
          List.mapIdx_cons, Nat.zero_add]
        simp only [Nat.add_assoc, Nat.add_comm 1 position]
        rfl

/-- Parameters that pass the check have properties under their distinct names. -/
theorem properties?_of_checkAll? {context : String} {ps : List Parameter} {slots : List Slot}
    (h : checkAll? context ps = .ok slots) (source : Source) (stem : String)
    (taken : List String) :
  ∃ properties, properties? source stem 0 (named source.word taken ps) = .ok properties
    ∧ properties.map (·.getter)
      = Slot.getters source stem
          ((Slot.named source.word taken slots).map (Slot.recordedBy source))
    ∧ properties.flatMap (·.classes)
      = Slot.structsAll stem ((Slot.named source.word taken slots).map (Slot.recordedBy source))
  := by
  use (Slot.named source.word taken slots).mapIdx fun k s =>
    (s.recordedBy source).property source stem k
  constructor
  · rw [named, properties?_of_names h, ← map_name_of_checkAll? h]
    · rfl
    · simp
    · apply Name.siblings_ne_empty source.word_ne_empty
  · constructor
    · apply List.ext_getElem
      · simp [Slot.getters]
      · simp [Slot.getters, Slot.property]
    · rw [Slot.structsAll_eq_flatMap, List.flatMap_def, List.flatMap_def]
      apply congrArg
      apply List.ext_getElem
      · simp
      · simp [Slot.property]

/-- The structs of a parameter that passes the check are those of its slot. -/
theorem tupleStructs?_of_check? {context : String} {p : Parameter} {s : Slot}
    (h : p.check? context = .ok s) (stem name : String) :
  p.tupleStructs? stem name = .ok ((s.renamed name).structs stem)
  := by
  obtain ⟨shape, fields, checked, inside, rfl⟩ := check?_eq_ok_iff.mp h
  rw [tupleStructs?, ← TypeExpr.isTuple_of_check? checked, Slot.renamed, Slot.structs]
  by_cases tuple : shape.isTuple
  · rw [if_pos tuple] at inside
    rw [if_pos tuple, if_pos tuple, structs?, fields?_of_checkComponents? inside]
    rfl
  · rw [if_neg tuple, if_neg tuple]

/-- The structs of parameters that pass the check are those of their slots. -/
theorem tupleStructsAll?_of_checkAll? {context : String} {ps : List Parameter} {slots : List Slot}
    (h : checkAll? context ps = .ok slots) (stem : String) {names : List String}
    (length : names.length = ps.length) :
  tupleStructsAll? stem names ps
    = .ok (Slot.structsAll stem (List.zipWith Slot.renamed names slots))
  := by
  induction ps generalizing names slots with
  | nil =>
      obtain rfl := Except.ok.inj h
      rw [List.zipWith_nil_right]
      cases names <;> rfl
  | cons p ps ih =>
      obtain ⟨s, ss, checked, rest, rfl⟩ := checkAll?_cons_eq_ok_iff.mp h
      obtain _ | ⟨name, names⟩ := names
      · cases length
      · rw [tupleStructsAll?, tupleStructs?_of_check? checked, ih rest (Nat.succ.inj length)]
        rfl

end Parameter

/-! ## The passes after a check -/

theorem Event.classes?_of_checked {e : Event Parameter} {e' : Event Slot} (h : Checked e e')
    (assigned : String) :
  e.classes? assigned = .ok (e'.classes assigned)
  := by
  obtain ⟨context, checked⟩ := h.inputs
  obtain ⟨properties, made, getters, structs⟩ :=
    Parameter.properties?_of_checkAll? checked Source.eventParameters assigned []
  have recorded : Slot.recordedBy Source.eventParameters = Slot.recorded := by
    rfl
  rw [recorded] at getters structs
  rw [classes?, made, classes, Event.recorded, parameters, ← getters, ← structs]
  rfl

theorem Call.classes?_of_checked {c : Call Parameter} {c' : Call Slot} (h : Checked c c')
    (assigned : String) :
  c.classes? assigned = .ok (c'.classes assigned)
  := by
  obtain ⟨context, checked⟩ := h.inputs
  obtain ⟨context', checked'⟩ := h.outputs
  obtain ⟨inputs, made, getters, structs⟩ :=
    Parameter.properties?_of_checkAll? checked Source.callInputs (inputsName assigned) []
  obtain ⟨outputs, made', getters', structs'⟩ :=
    Parameter.properties?_of_checkAll? checked' Source.callOutputs (outputsName assigned) []
  have recorded : Slot.recordedBy Source.callInputs = id := by
    rfl
  have recorded' : Slot.recordedBy Source.callOutputs = id := by
    rfl
  rw [recorded, List.map_id] at getters structs
  rw [recorded', List.map_id] at getters' structs'
  rw [classes?, made, made', classes, namedInputs, namedOutputs, ← getters, ← structs,
    ← getters', ← structs']
  rfl

/-- A function has as many results as outputs. -/
theorem Function.Checked.length_results {f : Function Parameter} {f' : Function Slot}
    (h : Checked f f') :
  f'.results.length = f.outputs.length
  := by
  rw [results, List.length_mapIdx, h.outputs.length_eq]

/-- The outputs of a function are named by position. -/
theorem Function.Checked.zipWith_valueNames {f : Function Parameter} {f' : Function Slot}
    (h : Checked f f') :
  List.zipWith Slot.renamed f.valueNames f'.outputs = f'.results
  := by
  have outputs := h.outputs.length_eq
  apply List.ext_getElem
  · simp [valueNames, results, outputs]
  · simp [valueNames, results, Slot.renamed]

theorem Function.parts?_of_checked {f : Function Parameter} {f' : Function Slot}
    (h : Checked f f') (contract assigned : String) :
  f.parts? contract assigned = .ok (f'.method contract assigned, f'.classes contract assigned)
  := by
  obtain ⟨context, checked⟩ := h.inputs
  obtain ⟨context', checked'⟩ := h.outputs
  have arguments : Parameter.slots? (inputStem contract assigned)
      (Name.siblings "param" [localName] (f.inputs.map Parameter.label)) f.inputs
      = .ok f'.arguments := by
    rw [Parameter.slots?_of_checkAll? checked, ← Parameter.map_name_of_checkAll? checked]
    · rfl
    · simp
  have length : f.valueNames.length = f.outputs.length := by
    simp [valueNames]
  rw [parts?, arguments, Parameter.tupleStructsAll?_of_checkAll? checked' _ length,
    Parameter.slots?_of_checkAll? checked' _ _ length, h.zipWith_valueNames, method, h.name]
  rfl

namespace Interface

variable {i : Interface Parameter} {j : Interface Slot}

/-- The pass over the events succeeds on an interface that passes its check. -/
theorem eventPass?_of_check? (h : i.check? = .ok j) :
  i.eventPass? = .ok j.eventSection.classes
  := by
  rw [eventPass?, Fault.mapM_eq_ok_of_forall₂ (g := fun c => c.2.classes c.1)
    (forall₂_namedEvents h), eventSection, List.flatMap_def]
  · rfl
  · rintro ⟨assigned, e⟩ ⟨assigned', e'⟩ ⟨rfl, checked⟩
    apply Event.classes?_of_checked checked

/-- The pass over the calls succeeds on an interface that passes its check. -/
theorem callPass?_of_check? (h : i.check? = .ok j) :
  i.callPass? = .ok j.callSection.classes
  := by
  rw [callPass?, Fault.mapM_eq_ok_of_forall₂ (g := fun c => c.2.classes c.1)
    (forall₂_namedCalls h), callSection, List.flatMap_def]
  · rfl
  · rintro ⟨assigned, c⟩ ⟨assigned', c'⟩ ⟨rfl, checked⟩
    apply Call.classes?_of_checked checked

/-- The pass over the contract succeeds on an interface that passes its check. -/
theorem contractPass?_of_check? (allowed : List String) (h : i.check? = .ok j) :
  i.contractPass? allowed = .ok (j.contractSection allowed).classes
  := by
  have name := (name_and_members_of_check? h).1
  rw [contractPass?, Fault.mapM_eq_ok_of_forall₂
    (g := fun c => (c.2.method j.name c.1, c.2.classes j.name c.1))
    (forall₂_namedFunctions allowed h), contractSection, contractClass, name]
  · apply congrArg Except.ok
    rw [List.flatMap_map, List.map_map]
    rfl
  · rintro ⟨assigned, f⟩ ⟨assigned', f'⟩ ⟨rfl, checked⟩
    rw [name]
    apply Function.parts?_of_checked checked

end Interface

end ContractBindings
