import ContractBindings.Bindings
import ContractBindings.Proofs.Interface.Place
import ContractBindings.Proofs.Section.Unchecked
import Mathlib.Tactic.Common

/-!
# When there are bindings

An interface has bindings if and only if all its places are admissible, whatever the options.
Otherwise the first place that is not decides the fault.  As soon as the check has passed, the
three passes over the declared parameters cannot fail any more, and the classes of the bindings
are what they give.
-/

namespace ContractBindings.Interface

/-- An interface has bindings if and only if all its places are admissible. -/
theorem exists_bindings?_iff (options : Options) (i : Interface Parameter) :
  (∃ b, i.bindings? options = .ok b) ↔ ∀ q ∈ i.places, q.Admissible
  := by
  have unfaulty : Fault.of? i.check? = none ↔ ∀ q ∈ i.places, q.Admissible := by
    rw [firstFault_check?, List.findSome?_eq_none_iff]
    simp only [Place.fault?_eq_none_iff]
  rw [← unfaulty, Fault.of?_eq_none_iff]
  constructor
  · rintro ⟨b, made⟩
    obtain ⟨j, checked, -⟩ := bindings?_eq_ok_iff.mp made
    use j
  · rintro ⟨j, checked⟩
    use j.bindings options
    apply bindings?_eq_ok_iff.mpr
    use j

/-- The fault of an interface is that of its first place that is not admissible. -/
theorem bindings?_eq_error_iff (options : Options) (i : Interface Parameter) (fault : Fault) :
  i.bindings? options = .error fault
    ↔ ∃ before q after, i.places = before ++ q :: after
      ∧ (∀ p ∈ before, p.Admissible) ∧ q.fault? = some fault
  := by
  have refused : i.bindings? options = .error fault ↔ Fault.of? i.check? = some fault := by
    rw [Fault.of?_eq_some_iff, bindings?]
    cases i.check? <;> simp [Except.map]
  rw [refused, firstFault_check?, List.findSome?_eq_some_iff]
  simp only [Place.fault?_eq_none_iff, and_comm]

/-- After a check the passes give the classes of the bindings. -/
theorem passes_of_check? (options : Options) {i : Interface Parameter} {j : Interface Slot}
    (h : i.check? = .ok j) :
  ∃ events contract calls,
    i.eventPass? = .ok events ∧ i.contractPass? options.allowed = .ok contract
    ∧ i.callPass? = .ok calls
    ∧ (i.bindings? options).map (·.classes) = .ok (events ++ contract ++ calls)
  := by
  use j.eventSection.classes, (j.contractSection options.allowed).classes, j.callSection.classes
  use eventPass?_of_check? h, contractPass?_of_check? _ h, callPass?_of_check? h
  rw [bindings?_eq_ok_iff.mpr ⟨j, h, rfl⟩]
  simp [Except.map, bindings, sections]

/-- An interface has bindings if and only if all its places are admissible.  Otherwise it has
the fault of the first place that is not.  If all are, then no pass fails, and the classes of
the bindings are those of the passes. -/
theorem bindings?_outcome (options : Options) (i : Interface Parameter) :
  ((∃ b, i.bindings? options = .ok b) ↔ ∀ q ∈ i.places, q.Admissible)
  ∧ (∀ fault, i.bindings? options = .error fault
      ↔ ∃ before q after, i.places = before ++ q :: after
        ∧ (∀ p ∈ before, p.Admissible) ∧ q.fault? = some fault)
  ∧ ((∀ q ∈ i.places, q.Admissible) →
      ∃ events contract calls,
        i.eventPass? = .ok events ∧ i.contractPass? options.allowed = .ok contract
        ∧ i.callPass? = .ok calls
        ∧ (i.bindings? options).map (·.classes) = .ok (events ++ contract ++ calls))
  := by
  use i.exists_bindings?_iff options, i.bindings?_eq_error_iff options
  intro admissible
  obtain ⟨b, made⟩ := (i.exists_bindings?_iff options).mpr admissible
  obtain ⟨j, checked, -⟩ := bindings?_eq_ok_iff.mp made
  apply passes_of_check? options checked

/-- An event with a tuple whose second component is of the given type. -/
def payments (type : String) : Interface Parameter where
  name := "Payments"
  members :=
    [.event
      { name := "Paid"
        inputs :=
          [{ type := "address", name := some "payer", indexed := true },
            { type := "tuple[]"
              name := some "items"
              components := some [{ type := "string" }, { type := type, name := some "sum" }] }]
        anonymous := false }]

theorem outcome_payments :
  (∃ events contract calls,
    (payments "uint64").eventPass? = .ok events
    ∧ (payments "uint64").contractPass? Mutability.readable = .ok contract
    ∧ (payments "uint64").callPass? = .ok calls
    ∧ ((payments "uint64").bindings? {}).map (·.classes) = .ok (events ++ contract ++ calls))
  ∧ (payments "uint7").bindings? {} = .error (.unsupportedType "uint7" "Paid.items.sum")
  ∧ ∃ before q after, (payments "uint7").places = before ++ q :: after
    ∧ (∀ p ∈ before, p.Admissible)
    ∧ q.fault? = some (.unsupportedType "uint7" "Paid.items.sum")
  := by
  have accepted : (payments "uint64").check?.isOk := by
    decide +kernel
  have refused : (payments "uint7").bindings? {}
      = .error (.unsupportedType "uint7" "Paid.items.sum") := by
    apply (Fault.of?_eq_some_iff _ _).mp
    decide +kernel
  constructor
  · apply (bindings?_outcome {} (payments "uint64")).2.2
    apply (bindings?_outcome {} (payments "uint64")).1.mp
    apply exists_bindings?_of_isOk accepted
  · use refused
    apply ((bindings?_outcome {} (payments "uint7")).2.1 _).mp refused

end ContractBindings.Interface
