import ContractBindings.Proofs.Bindings.ClassNames
import ContractBindings.Proofs.Section.Result
import ContractBindings.Proofs.Slot.Spoken

/-!
# The names of members

The members of a class are its fields and its methods, with getters, static methods and the
constructor among them.  Getters of values that stand side by side have distinct names, and so
have the methods of functions, but some classes have members of their own beside them: a holder
has the field of its reference and a constructor, and the contract has the method `bind`.  Nothing
keeps the names of parameters and functions apart from these.

`Interface.nodup_memberNames_bindings_iff` says that there is no other way for two members of a
class to have one name: they are pairwise distinct in all classes exactly when no parameter of an
event or a call and no function that can be read is declared under such a name.
-/

namespace ContractBindings

/-- The names of the members of a class: its fields, then its methods. -/
def ClassDef.memberNames (c : ClassDef) : List String :=
  c.fields.map (·.name) ++ c.methods.map (·.name)

/-! ## Structs -/

namespace Slot

/-- The names of components that stand side by side are pairwise distinct. -/
theorem nodup_holdsOfSiblings :
  HoldsOfSiblings List.Nodup
  := by
  constructor
  · apply List.nodup_nil
  · intro names
    apply Name.nodup_distinct

/-- The members of structs are named by the fields of their tuples. -/
theorem forall_memberNames_structsAll {P : List String → Prop} {stem : String}
    {slots : List Slot} (h : WithinAll P slots) :
  ∀ c ∈ structsAll stem slots, P c.memberNames
  := by
  apply forall_mem_structsAll (P := fun c => P c.memberNames)
    (fun s within => ((within_iff s).mp within).2) _ ((withinAll_iff _).mp h)
  intro stem s within
  rw [ClassDef.memberNames, Struct.classDef, map_name_getters]
  apply ((within_iff s).mp within).1

end Slot

/-! ## Holders, results and the contract -/

namespace Holder

/-- The names of the members that a holder has apart from its getters. -/
def ownNames (reference : String) : List String :=
  [Source.fieldOf reference, "constructor"]

example : ownNames Source.eventReference = ["_event", "constructor"] := by decide

example : ownNames Source.callReference = ["_call", "constructor"] := by decide

/-- The members of a holder are pairwise distinct if and only if none of the values is declared
under the name of another member. -/
theorem nodup_memberNames_iff {reference : String}
    (known : reference ∈ [Source.eventReference, Source.callReference])
    {getters : List Method} {word : String} {names : List String}
    (named : getters.map (·.name) = Name.siblings word [] names) (name owner : String) :
  (classDef name reference owner getters).memberNames.Nodup
    ↔ ∀ declared ∈ names, declared ∉ ownNames reference
  := by
  have distinct : ∀ reference ∈ [Source.eventReference, Source.callReference],
      (ownNames reference).Nodup
      ∧ ∀ own ∈ ownNames reference, Name.isPlain own ∧ own ∉ Name.reserved := by
    decide
  obtain ⟨nodup, plain⟩ := distinct reference known
  have members : (classDef name reference owner getters).memberNames
      = ownNames reference ++ Name.siblings word [] names := by
    rw [← named]
    rfl
  rw [members, List.nodup_append']
  constructor
  · rintro ⟨-, -, apart⟩ own declared member
    apply apart member
    apply (Name.mem_siblings_iff (plain own member).1 word [] names).mpr
    exact ⟨declared, (plain own member).2, List.not_mem_nil⟩
  · intro free
    refine ⟨nodup, Name.nodup_distinct _, ?_⟩
    intro own member assigned
    apply free own _ member
    apply ((Name.mem_siblings_iff (plain own member).1 word [] names).mp assigned).1

end Holder

/-- The members of the classes of an event are pairwise distinct if and only if those of its
holder are. -/
theorem Event.nodup_memberNames_classes_iff {e : Event Slot}
    (within : ∀ s ∈ e.inputs, s.Within List.Nodup) (assigned : String) :
  (∀ c ∈ e.classes assigned, c.memberNames.Nodup)
    ↔ ∀ name ∈ e.inputs.map (·.name), name ∉ Holder.ownNames Source.eventReference
  := by
  have named : (Slot.getters Source.eventParameters assigned e.recorded).map (·.name)
      = Name.siblings Source.eventParameters.word [] (e.inputs.map (·.name)) := by
    rw [Slot.map_name_getters, map_name_recorded]
  have recorded : Slot.WithinAll List.Nodup e.recorded := by
    apply withinAll_recorded Slot.nodup_holdsOfSiblings within
  rw [classes, classesOf, List.forall_mem_cons, List.forall_mem_cons,
    Holder.nodup_memberNames_iff (by decide) named]
  constructor
  · rintro ⟨-, holder, -⟩
    apply holder
  · intro holder
    refine ⟨?_, holder, Slot.forall_memberNames_structsAll recorded⟩
    apply List.nodup_singleton

/-- The members of the classes of a call are pairwise distinct if and only if those of its
holders are. -/
theorem Call.nodup_memberNames_classes_iff {c : Call Slot}
    (inputs : ∀ s ∈ c.inputs, s.Within List.Nodup)
    (outputs : ∀ s ∈ c.outputs, s.Within List.Nodup) (assigned : String) :
  (∀ d ∈ c.classes assigned, d.memberNames.Nodup)
    ↔ ∀ name ∈ (c.inputs ++ c.outputs).map (·.name),
        name ∉ Holder.ownNames Source.callReference
  := by
  have holder (source : Source) (name : String) (slots : List Slot) :
      (Holder.classDef name Source.callReference (className assigned)
        (Slot.getters source name (Slot.named source.word [] slots))).memberNames.Nodup
        ↔ ∀ declared ∈ slots.map (·.name), declared ∉ Holder.ownNames Source.callReference := by
    apply Holder.nodup_memberNames_iff (by decide)
    rw [Slot.map_name_getters, Slot.map_name_named]
  rw [classes, classesOf, namedInputs, namedOutputs, List.forall_mem_cons, List.forall_mem_cons,
    List.forall_mem_cons, holder, holder, List.map_append, List.forall_mem_append,
    List.forall_mem_append]
  constructor
  · rintro ⟨-, left, right, -⟩
    use left, right
  · rintro ⟨left, right⟩
    refine ⟨?_, left, right, ?_, ?_⟩
    · change ["inputs", "outputs"].Nodup
      decide
    · apply Slot.forall_memberNames_structsAll (Slot.withinAll_named _ _ inputs)
    · apply Slot.forall_memberNames_structsAll (Slot.withinAll_named _ _ outputs)

namespace Function

/-- The members of a result class are pairwise distinct. -/
theorem nodup_memberNames_resultClass (contract assigned : String) (f : Function Slot) :
  (resultClass contract assigned f.results).memberNames.Nodup
  := by
  have members : (resultClass contract assigned f.results).memberNames
      = f.results.map (·.name) ++ ["constructor", "toMap"] := by
    simp [ClassDef.memberNames, resultClass, resultFields]
  rw [members, List.nodup_append']
  refine ⟨f.nodup_map_name_results, by decide, ?_⟩
  · intro name value own
    have plain : ∀ own ∈ ["constructor", "toMap"], Name.isPlain own := by
      decide
    rw [map_name_results] at value
    obtain ⟨k, -, given⟩ := List.mem_map.mp value
    apply Name.append_toString_ne (plain name own) "value" k given

/-- The members of the classes of a function are pairwise distinct. -/
theorem nodup_memberNames_classes {f : Function Slot}
    (inputs : ∀ s ∈ f.inputs, s.Within List.Nodup)
    (outputs : ∀ s ∈ f.outputs, s.Within List.Nodup) (contract assigned : String) :
  ∀ c ∈ f.classes contract assigned, c.memberNames.Nodup
  := by
  apply forall_mem_classes
  · apply nodup_memberNames_resultClass
  · apply Slot.forall_memberNames_structsAll (withinAll_results outputs)
  · apply Slot.forall_memberNames_structsAll (Slot.withinAll_named _ _ inputs)

end Function

namespace Interface

/-- The members of the contract are pairwise distinct if and only if no function that can be read
is called like the method that binds it. -/
theorem nodup_memberNames_contractClass_iff (allowed : List String) (i : Interface Slot) :
  (i.contractClass allowed).memberNames.Nodup ↔ ∀ f ∈ i.readable allowed, f.name ≠ "bind"
  := by
  have members : (i.contractClass allowed).memberNames
      = "bind" :: Name.distinct (i.methodCandidates allowed) := by
    rw [← map_fst_namedFunctions, ClassDef.memberNames, contractClass, contractClassOf]
    simp [factory, Function.method, Function.methodOf]
  have plain : Name.isPlain "bind" := by
    decide
  rw [members, List.nodup_cons, Name.mem_distinct_iff plain, methodCandidates, List.mem_map]
  simp only [Name.escape_eq_iff plain]
  constructor
  · rintro ⟨free, -⟩ f readable named
    apply free
    refine ⟨f, readable, named, ?_⟩
    decide
  · intro free
    constructor
    · rintro ⟨f, readable, named, -⟩
      apply free f readable named
    · apply Name.nodup_distinct

/-! ## All classes -/

/-- What keeps the members of all classes apart: no parameter and no function that can be read is
declared under the name of a member that the class has on its own. -/
structure MembersApart (allowed : List String) (i : Interface Parameter) : Prop where
  events : ∀ e ∈ i.events, ∀ name ∈ e.inputs.map Parameter.label,
    name ∉ Holder.ownNames Source.eventReference
  calls : ∀ c ∈ i.calls, ∀ name ∈ (c.inputs ++ c.outputs).map Parameter.label,
    name ∉ Holder.ownNames Source.callReference
  functions : ∀ f ∈ i.readable allowed, f.name ≠ "bind"

variable {i : Interface Parameter} {j : Interface Slot}

theorem nodup_memberNames_eventSection_iff (h : i.check? = .ok j) :
  (∀ c ∈ j.eventSection.classes, c.memberNames.Nodup)
    ↔ ∀ e ∈ i.events, ∀ name ∈ e.inputs.map Parameter.label,
        name ∉ Holder.ownNames Source.eventReference
  := by
  rw [eventSection, List.forall_mem_flatMap, ← map_snd_namedEvents, List.forall_mem_map]
  apply forall_iff_of_forall₂ _ (forall₂_namedEvents h)
  rintro ⟨assigned, e⟩ ⟨assigned', e'⟩ ⟨rfl, checked⟩
  rw [Event.nodup_memberNames_classes_iff, checked.inputs.map_name]
  apply checked.inputs.forall_within Slot.nodup_holdsOfSiblings

theorem nodup_memberNames_callSection_iff (h : i.check? = .ok j) :
  (∀ c ∈ j.callSection.classes, c.memberNames.Nodup)
    ↔ ∀ c ∈ i.calls, ∀ name ∈ (c.inputs ++ c.outputs).map Parameter.label,
        name ∉ Holder.ownNames Source.callReference
  := by
  rw [callSection, List.forall_mem_flatMap, ← map_snd_namedCalls, List.forall_mem_map]
  apply forall_iff_of_forall₂ _ (forall₂_namedCalls h)
  rintro ⟨assigned, c⟩ ⟨assigned', c'⟩ ⟨rfl, checked⟩
  rw [Call.nodup_memberNames_classes_iff, List.map_append, List.map_append,
    checked.inputs.map_name, checked.outputs.map_name]
  · apply checked.inputs.forall_within Slot.nodup_holdsOfSiblings
  · apply checked.outputs.forall_within Slot.nodup_holdsOfSiblings

theorem nodup_memberNames_contractSection_iff (h : i.check? = .ok j) (allowed : List String) :
  (∀ c ∈ (j.contractSection allowed).classes, c.memberNames.Nodup)
    ↔ ∀ f ∈ i.readable allowed, f.name ≠ "bind"
  := by
  have functions : ∀ x ∈ j.namedFunctions allowed, ∀ c ∈ x.2.classes j.name x.1,
      c.memberNames.Nodup := by
    intro x member
    obtain ⟨y, -, checked⟩ := exists_of_forall₂ (forall₂_namedFunctions allowed h) member
    apply Function.nodup_memberNames_classes
    · apply checked.inputs.forall_within Slot.nodup_holdsOfSiblings
    · apply checked.outputs.forall_within Slot.nodup_holdsOfSiblings
  have names : (∀ f ∈ j.readable allowed, f.name ≠ "bind")
      ↔ ∀ f ∈ i.readable allowed, f.name ≠ "bind" := by
    apply forall_iff_of_forall₂ _ (forall₂_readable allowed h)
    intro f f' checked
    rw [checked.name]
  rw [contractSection, List.forall_mem_append, List.forall_mem_singleton,
    nodup_memberNames_contractClass_iff, names, List.forall_mem_flatMap]
  apply and_iff_right functions

/-- The members of every class of bindings are pairwise distinct if and only if the names of the
interface keep them apart. -/
theorem nodup_memberNames_bindings_iff {options : Options} {b : Bindings}
    (made : i.bindings? options = .ok b) :
  (∀ c ∈ b.classes, c.memberNames.Nodup) ↔ i.MembersApart options.allowed
  := by
  obtain ⟨j, checked, rfl⟩ := bindings?_eq_ok_iff.mp made
  simp only [bindings, sections, List.flatMap_cons, List.flatMap_nil, List.append_nil,
    List.forall_mem_append]
  rw [nodup_memberNames_eventSection_iff checked, nodup_memberNames_contractSection_iff checked,
    nodup_memberNames_callSection_iff checked]
  constructor
  · rintro ⟨events, functions, calls⟩
    exact ⟨events, calls, functions⟩
  · rintro ⟨events, calls, functions⟩
    exact ⟨events, functions, calls⟩

/-- An event whose parameters have the names of provided members and no name at all, and a function
called like the method of a result class, whose outputs are declared under the names of its
members. -/
def auction : Interface Parameter where
  name := "Auction"
  members :=
    [.event
      { name := "Bid"
        inputs :=
          [{ type := "address", name := some "event" }, { type := "uint256" },
            { type := "uint256", name := some "event" }]
        anonymous := false },
     .function
      { name := "toMap"
        inputs := [{ type := "uint256", name := some "bind" }]
        outputs := [{ type := "address", name := some "constructor" }, { type := "bool" }]
        mutability := "view" }]

theorem nodup_memberNames_auction :
  ∃ b, auction.bindings? {} = .ok b
    ∧ b.classes.map ClassDef.memberNames
      = [["params"], ["_event", "constructor", "event", "param1", "event1"],
        ["value0", "value1", "constructor", "toMap"], ["bind", "toMap"]]
    ∧ ∀ c ∈ b.classes, c.memberNames.Nodup
  := by
  have names : (auction.bindings? {}).map (fun b => b.classes.map ClassDef.memberNames)
      = .ok [["params"], ["_event", "constructor", "event", "param1", "event1"],
        ["value0", "value1", "constructor", "toMap"], ["bind", "toMap"]] := by
    decide +kernel
  obtain ⟨b, made, names⟩ := exists_bindings_of_map names
  use b, made, names
  apply (nodup_memberNames_bindings_iff made).mpr
  constructor <;> decide +kernel

/-- An event with a parameter that is called like the reference to the event. -/
def harbour : Interface Parameter where
  name := "Harbour"
  members :=
    [.event
      { name := "Docked"
        inputs := [{ type := "bool", name := some "_event" }]
        anonymous := false }]

/-- A getter can be called like the reference that it reads. -/
theorem not_nodup_memberNames_harbour :
  ∃ b, harbour.bindings? {} = .ok b
    ∧ b.classes.map ClassDef.memberNames
      = [["params"], ["_event", "constructor", "_event"], ["bind"]]
    ∧ ¬ ∀ c ∈ b.classes, c.memberNames.Nodup
  := by
  have names : (harbour.bindings? {}).map (fun b => b.classes.map ClassDef.memberNames)
      = .ok [["params"], ["_event", "constructor", "_event"], ["bind"]] := by
    decide +kernel
  obtain ⟨b, made, names⟩ := exists_bindings_of_map names
  use b, made, names
  intro distinct
  have distinct : ∀ members ∈ b.classes.map ClassDef.memberNames, members.Nodup := by
    rw [List.forall_mem_map]
    apply distinct
  rw [names] at distinct
  apply absurd (distinct ["_event", "constructor", "_event"] (by simp))
  decide

end Interface

end ContractBindings
