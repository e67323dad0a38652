import ContractBindings.Bindings
import Mathlib.Data.List.Basic
import Mathlib.Tactic.Common

/-!
# The class of the contract among the others

Among the classes of bindings the class of the contract is the only one that extends the provided
class of contracts.  The classes of the events and of the functions come before it, and those of
the calls after it (`Interface.around_bindings`).
-/

namespace ContractBindings

/-- A class that extends the provided class of contracts. -/
def ClassDef.IsContract (c : ClassDef) : Prop :=
  c.base = some Provided.contract

/-- Bindings in which the class of the contract has the given classes before and after it, none of
them the class of a contract. -/
structure Bindings.Around (b : Bindings) (before : List ClassDef) (contract : ClassDef)
    (after : List ClassDef) : Prop where
  classes : b.classes = before ++ contract :: after
  isContract : contract.IsContract
  others : ∀ c ∈ before ++ after, ¬ c.IsContract

/-! ## What the other classes extend -/

theorem ClassDef.not_isContract_of_base {c : ClassDef} (base : Option String) (h : c.base = base)
    (apart : base ≠ some Provided.contract) :
  ¬ c.IsContract
  := by
  rw [IsContract, h]
  apply apart

namespace Slot

/-- Structs extend the provided class of tuples. -/
theorem not_isContract_structsAll (stem : String) (slots : List Slot) :
  ∀ c ∈ structsAll stem slots, ¬ c.IsContract
  := by
  apply forall_mem_structsAll (P := fun c => ¬ c.IsContract) (Q := fun _ => True)
  · intros
    trivial
  · intros
    apply ClassDef.not_isContract_of_base (some Provided.tuple) rfl
    decide
  · intros
    trivial

end Slot

/-- The classes of an event do not extend the class of contracts. -/
theorem Event.not_isContract_classes (e : Event Slot) (assigned : String) :
  ∀ c ∈ e.classes assigned, ¬ c.IsContract
  := by
  rw [classes, classesOf, List.forall_mem_cons, List.forall_mem_cons]
  refine ⟨?_, ?_, ?_⟩
  · apply ClassDef.not_isContract_of_base (some Provided.event) rfl
    decide
  · apply ClassDef.not_isContract_of_base none rfl
    decide
  · apply Slot.not_isContract_structsAll

/-- The classes of a call do not extend the class of contracts. -/
theorem Call.not_isContract_classes (c : Call Slot) (assigned : String) :
  ∀ d ∈ c.classes assigned, ¬ d.IsContract
  := by
  rw [classes, classesOf, List.forall_mem_cons, List.forall_mem_cons, List.forall_mem_cons,
    List.forall_mem_append]
  refine ⟨?_, ?_, ?_, ?_, ?_⟩
  · apply ClassDef.not_isContract_of_base (some Provided.call) rfl
    decide
  · apply ClassDef.not_isContract_of_base none rfl
    decide
  · apply ClassDef.not_isContract_of_base none rfl
    decide
  · apply Slot.not_isContract_structsAll
  · apply Slot.not_isContract_structsAll

/-- The classes of a function do not extend the class of contracts. -/
theorem Function.not_isContract_classes (contract assigned : String) (f : Function Slot) :
  ∀ c ∈ f.classes contract assigned, ¬ c.IsContract
  := by
  apply forall_mem_classes
  · apply ClassDef.not_isContract_of_base none rfl
    decide
  · apply Slot.not_isContract_structsAll
  · apply Slot.not_isContract_structsAll

namespace Interface

/-- The classes that the methods of a contract need. -/
def functionClasses (allowed : List String) (i : Interface Slot) : List ClassDef :=
  (i.namedFunctions allowed).flatMap fun x => x.2.classes i.name x.1

/-- The class of the contract stands between the classes of events and functions and those of
calls, and no other class extends the class of contracts. -/
theorem around_bindings (options : Options) (i : Interface Slot) :
  (i.bindings options).Around (i.eventSection.classes ++ i.functionClasses options.allowed)
    (i.contractClass options.allowed) i.callSection.classes
  := by
  constructor
  · simp [bindings, sections, contractSection, functionClasses]
  · rfl
  · simp only [eventSection, functionClasses, callSection, List.forall_mem_append,
      List.forall_mem_flatMap]
    refine ⟨⟨?_, ?_⟩, ?_⟩
    · intro x _
      apply Event.not_isContract_classes
    · intro x _
      apply Function.not_isContract_classes
    · intro x _
      apply Call.not_isContract_classes

end Interface

end ContractBindings
