import ContractBindings.Proofs.Bindings.Available
import ContractBindings.Proofs.Bindings.MemberNames

/-!
# Kinds of classes

The bindings of a checked interface have classes of five kinds: those of events and of calls, which
make holders; the holders; the structs of tuples; the results of functions; and the class of the
contract.  `Interface.Makes` lists them with what all names of values have in common: none of them
is reserved, in whichever event, call or tuple the values stand.  What is to be shown of every class
can be shown kind by kind (`Interface.makes_of_mem_bindings`).
-/

namespace ContractBindings

/-- None of the names is reserved. -/
def Name.Unreserved (names : List String) : Prop :=
  ∀ name ∈ names, name ∉ reserved

instance (names : List String) : Decidable (Name.Unreserved names) :=
  inferInstanceAs (Decidable (∀ name ∈ names, name ∉ Name.reserved))

/-- Reserved words end in letters. -/
theorem Name.isPlain_of_mem_reserved {word : String} (h : word ∈ reserved) :
  isPlain word
  := by
  apply Interface.isPlain_unavailable
  apply List.mem_append_right _ h

/-- Parameters that stand side by side are given names that are not reserved. -/
theorem Name.unreserved_siblings (word : String) (taken names : List String) :
  Unreserved (siblings word taken names)
  := by
  intro name member reserved
  obtain ⟨-, free, -⟩ := (mem_siblings_iff (isPlain_of_mem_reserved reserved) _ _ _).mp member
  apply free reserved

/-- A class of one of the kinds that the bindings of an interface have. -/
inductive Interface.Makes (allowed : List String) (i : Interface Slot) : ClassDef → Prop where
  | entry (name base : String) (holders : List (String × String))
    (known : ∀ x ∈ holders, x.1 ∈ ["params", "inputs", "outputs"]) :
    Makes allowed i
      { name := name, base := some base, methods := holders.map fun x => Holder.getter x.1 x.2 }
  | holder {reference : String} (known : reference ∈ [Source.eventReference, Source.callReference])
    (name owner stem : String) (source : Source) {slots : List Slot}
    (free : Name.Unreserved (slots.map (·.name))) :
    Makes allowed i (Holder.classDef name reference owner (Slot.getters source stem slots))
  | struct (stem field : String) {slots : List Slot}
    (free : Name.Unreserved (slots.map (·.name))) :
    Makes allowed i (Struct.classDef stem field slots)
  | result {x : String × Function Slot} (member : x ∈ i.namedFunctions allowed) :
    Makes allowed i (Function.resultClass i.name x.1 x.2.results)
  | contract : Makes allowed i (i.contractClass allowed)

namespace Slot

/-- The names of components that stand side by side are not reserved. -/
theorem unreserved_holdsOfSiblings :
  HoldsOfSiblings Name.Unreserved
  := by
  constructor
  · apply List.forall_mem_nil
  · apply Name.unreserved_siblings

/-- The structs in slots whose fields have names that are not reserved are of the kinds. -/
theorem makes_structsAll (allowed : List String) (i : Interface Slot) {stem : String}
    {slots : List Slot} (h : WithinAll Name.Unreserved slots) :
  ∀ c ∈ structsAll stem slots, i.Makes allowed c
  := by
  apply forall_mem_structsAll (P := fun c => i.Makes allowed c)
    (fun s within => ((within_iff s).mp within).2) _ ((withinAll_iff _).mp h)
  intro stem s within
  apply Interface.Makes.struct _ _ ((within_iff s).mp within).1

end Slot

section

variable (allowed : List String) (i : Interface Slot)

/-- The classes of an event are of the kinds. -/
theorem Event.makes_classes {e : Event Slot} (within : ∀ s ∈ e.inputs, s.Within Name.Unreserved)
    (assigned : String) :
  ∀ c ∈ e.classes assigned, i.Makes allowed c
  := by
  have free : Name.Unreserved (e.recorded.map (·.name)) := by
    rw [map_name_recorded]
    apply Name.unreserved_siblings
  rw [classes, classesOf, List.forall_mem_cons, List.forall_mem_cons]
  refine ⟨?_, ?_, ?_⟩
  · apply Interface.Makes.entry _ _ [("params", holderName assigned)]
    simp
  · apply Interface.Makes.holder (by decide) _ _ _ _ free
  · apply Slot.makes_structsAll _ _ (withinAll_recorded Slot.unreserved_holdsOfSiblings within)

/-- The classes of a call are of the kinds. -/
theorem Call.makes_classes {c : Call Slot} (inputs : ∀ s ∈ c.inputs, s.Within Name.Unreserved)
    (outputs : ∀ s ∈ c.outputs, s.Within Name.Unreserved) (assigned : String) :
  ∀ d ∈ c.classes assigned, i.Makes allowed d
  := by
  have free (word : String) (slots : List Slot) :
      Name.Unreserved ((Slot.named word [] slots).map (·.name)) := by
    rw [Slot.map_name_named]
    apply Name.unreserved_siblings
  rw [classes, classesOf, List.forall_mem_cons, List.forall_mem_cons, List.forall_mem_cons,
    List.forall_mem_append]
  refine ⟨?_, ?_, ?_, ?_, ?_⟩
  · apply Interface.Makes.entry _ _
      [("inputs", inputsName assigned), ("outputs", outputsName assigned)]
    simp
  · apply Interface.Makes.holder (by decide) _ _ _ _ (free _ _)
  · apply Interface.Makes.holder (by decide) _ _ _ _ (free _ _)
  · apply Slot.makes_structsAll _ _ (Slot.withinAll_named _ _ inputs)
  · apply Slot.makes_structsAll _ _ (Slot.withinAll_named _ _ outputs)

/-- The classes of a function that can be read are of the kinds. -/
theorem Function.makes_classes {x : String × Function Slot} (member : x ∈ i.namedFunctions allowed)
    (inputs : ∀ s ∈ x.2.inputs, s.Within Name.Unreserved)
    (outputs : ∀ s ∈ x.2.outputs, s.Within Name.Unreserved) :
  ∀ c ∈ x.2.classes i.name x.1, i.Makes allowed c
  := by
  apply forall_mem_classes
  · apply Interface.Makes.result member
  · apply Slot.makes_structsAll _ _ (withinAll_results outputs)
  · apply Slot.makes_structsAll _ _ (Slot.withinAll_named _ _ inputs)

end

namespace Interface

/-- Every class of the bindings of an interface that passes its check is of one of the kinds. -/
theorem makes_of_mem_bindings {i : Interface Parameter} {j : Interface Slot}
    (h : i.check? = .ok j) (options : Options) :
  ∀ c ∈ (j.bindings options).classes, j.Makes options.allowed c
  := by
  have within := @Parameter.Checked.forall_within _ Slot.unreserved_holdsOfSiblings
  simp only [bindings, sections, List.flatMap_cons, List.flatMap_nil, List.append_nil,
    List.forall_mem_append, eventSection, contractSection, callSection, List.forall_mem_flatMap]
  refine ⟨?_, ⟨?_, ?_⟩, ?_⟩
  · intro y member
    obtain ⟨x, -, checked⟩ := exists_of_forall₂ (forall₂_namedEvents h) member
    apply Event.makes_classes _ _ (within checked.inputs)
  · intro y member
    obtain ⟨x, -, checked⟩ := exists_of_forall₂ (forall₂_namedFunctions _ h) member
    apply Function.makes_classes _ _ member (within checked.inputs) (within checked.outputs)
  · rw [List.forall_mem_singleton]
    apply Makes.contract
  · intro y member
    obtain ⟨x, -, checked⟩ := exists_of_forall₂ (forall₂_namedCalls h) member
    apply Call.makes_classes _ _ (within checked.inputs) (within checked.outputs)

end Interface

end ContractBindings
