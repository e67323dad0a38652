import ContractBindings.Bindings
import ContractBindings.Proofs.Struct.Mention
import ContractBindings.Proofs.Struct.Occurrence
import ContractBindings.Proofs.Text.Ending

/-!
# Classes are mentioned

The classes of events, of the contract and of calls are the entries to bindings.  Every other
class is mentioned by a class of another name: a holder by the event or the call that makes it,
the class of the outputs of a function by the contract, and a struct by a holder, by the
contract, by the class of the outputs or by another struct.
-/

namespace ContractBindings

/-- A class that a program starts from: that of an event, of the contract or of a call. -/
def ClassDef.IsEntry (c : ClassDef) : Prop :=
  c.base ∈ [some Provided.event, some Provided.contract, some Provided.call]

/-- A class of another name among the classes mentions a class. -/
def ClassDef.MentionedIn (classes : List ClassDef) (c : ClassDef) : Prop :=
  ∃ d ∈ classes, d.name ≠ c.name ∧ d.Mentions c.name

theorem ClassDef.MentionedIn.mono {classes classes' : List ClassDef} {c : ClassDef}
    (h : c.MentionedIn classes) (sub : classes ⊆ classes') :
  c.MentionedIn classes'
  := by
  obtain ⟨d, there, other, mentions⟩ := h
  use d, sub there

theorem ClassDef.MentionedIn.flatMap {α : Type} {items : List α} {f : α → List ClassDef}
    {item : α} {c : ClassDef} (there : item ∈ items) (h : c.MentionedIn (f item)) :
  c.MentionedIn (items.flatMap f)
  := by
  apply h.mono
  intro d inside
  apply List.mem_flatMap.mpr ⟨item, there, inside⟩

/-- The structs of slots are mentioned when a class of another name has the types of the
slots. -/
theorem Slot.mentionedIn_structsAll {d : ClassDef} {stem : String} {slots : List Slot}
    (spoken : SpokenAll slots) (apart : ∀ field, d.name ≠ Struct.className stem field)
    (typed : ∀ s ∈ slots, ∀ name, s.structName? stem = some name → d.Mentions name) :
  ∀ c ∈ structsAll stem slots, c.MentionedIn (d :: structsAll stem slots)
  := by
  intro c made
  obtain ⟨s, inside, named⟩ | mentioned := exists_mention spoken c made
  · use d, List.mem_cons_self
    constructor
    · obtain ⟨-, spelled⟩ := Option.ite_none_right_eq_some.mp named
      rw [← Option.some.inj spelled]
      apply apart
    · apply typed s inside _ named
  · obtain ⟨e, there, other, mentions⟩ := mentioned
    use e, List.mem_cons_of_mem _ there

namespace Struct

/-- A struct is not called by a name with an ending of another kind. -/
theorem append_ne_className {word : String} (apart : Text.Apart word ending)
    (name stem field : String) :
  name ++ word ≠ className stem field
  := Text.append_ne_append apart name (innerStem stem field)

/-- A struct is not called by the name that its stem starts with. -/
theorem ne_className_append (name rest field : String) :
  name ≠ className (name ++ rest) field
  := by
  rw [className, innerStem, String.append_assoc, String.append_assoc]
  apply Text.ne_append
  simp

end Struct

namespace Function

/-- A contract is not called like a struct of a function. -/
theorem ne_className_inputStem (contract assigned field : String) :
  contract ≠ Struct.className (inputStem contract assigned) field
  := by
  rw [inputStem, String.append_assoc, String.append_assoc]
  apply Struct.ne_className_append

theorem ne_className_outputStem (contract assigned field : String) :
  contract ≠ Struct.className (outputStem contract assigned) field
  := by
  rw [outputStem, String.append_assoc, String.append_assoc]
  apply Struct.ne_className_append

/-- A contract is not called like the class of the outputs of a function. -/
theorem ne_resultName (contract assigned : String) :
  contract ≠ resultName contract assigned
  := by
  rw [resultName, String.append_assoc, String.append_assoc]
  apply Text.ne_append
  simp

end Function

namespace Holder

/-- The structs of the values of a holder are mentioned. -/
theorem mentionedIn_structsAll (name reference owner : String) (source : Source) {stem : String}
    {slots : List Slot} (spoken : Slot.SpokenAll slots)
    (apart : ∀ field, name ≠ Struct.className stem field) :
  ∀ c ∈ Slot.structsAll stem slots,
    c.MentionedIn
      (classDef name reference owner (Slot.getters source stem slots)
        :: Slot.structsAll stem slots)
  := by
  apply Slot.mentionedIn_structsAll spoken apart
  intro s inside struct named
  apply Slot.mentions_of_getters source _ inside named
  apply List.subset_cons_self

/-- A holder is mentioned by a class of another name that has a getter for it. -/
theorem mentionedIn_of_getter {classes : List ClassDef} {c holder : ClassDef} {name : String}
    (there : c ∈ classes) (other : c.name ≠ holder.name)
    (h : getter name holder.name ∈ c.methods) :
  holder.MentionedIn classes
  := by
  use c, there, other
  apply ClassDef.mentions_of_method h
  · apply List.mem_singleton_self
  · apply Nesting.root

end Holder

/-- The classes of an event are entries or mentioned. -/
theorem Event.mentionedIn_classes {e : Event Slot} (spoken : ∀ s ∈ e.inputs, s.Spoken)
    (assigned : String) :
  ∀ c ∈ e.classes assigned, c.IsEntry ∨ c.MentionedIn (e.classes assigned)
  := by
  have structs := Holder.mentionedIn_structsAll (holderName assigned) Source.eventReference assigned
    Source.eventParameters (e.spokenAll_recorded spoken)
    (Struct.append_ne_className (by decide) assigned assigned)
  rw [classes, classesOf, List.forall_mem_cons, List.forall_mem_cons]
  refine ⟨?_, ?_, ?_⟩
  · left
    apply List.mem_cons_self
  · right
    apply Holder.mentionedIn_of_getter List.mem_cons_self _ List.mem_cons_self
    apply Text.ne_append (by decide)
  · intro c made
    right
    apply (structs c made).mono
    apply List.subset_cons_self

/-- The classes of a call are entries or mentioned. -/
theorem Call.mentionedIn_classes {c : Call Slot} (inputs : ∀ s ∈ c.inputs, s.Spoken)
    (outputs : ∀ s ∈ c.outputs, s.Spoken) (assigned : String) :
  ∀ d ∈ c.classes assigned, d.IsEntry ∨ d.MentionedIn (c.classes assigned)
  := by
  have inputStructs := Holder.mentionedIn_structsAll (inputsName assigned) Source.callReference
    (className assigned) Source.callInputs (spokenAll_namedInputs inputs)
    (Struct.append_ne_className (by decide) (className assigned) (inputsName assigned))
  have outputStructs := Holder.mentionedIn_structsAll (outputsName assigned) Source.callReference
    (className assigned) Source.callOutputs (spokenAll_namedOutputs outputs)
    (Struct.append_ne_className (by decide) (className assigned) (outputsName assigned))
  rw [classes, classesOf, List.forall_mem_cons, List.forall_mem_cons, List.forall_mem_cons,
    List.forall_mem_append]
  refine ⟨?_, ?_, ?_, ?_, ?_⟩
  · left
    simp [ClassDef.IsEntry]
  · right
    apply Holder.mentionedIn_of_getter List.mem_cons_self _ List.mem_cons_self
    apply Text.ne_append (by decide)
  · right
    apply Holder.mentionedIn_of_getter List.mem_cons_self
    · apply Text.ne_append (by decide)
    · apply List.mem_cons_of_mem _ List.mem_cons_self
  · intro d made
    right
    apply (inputStructs d made).mono
    intro d member
    obtain rfl | member := List.mem_cons.mp member
    · apply List.mem_cons_of_mem _ List.mem_cons_self
    · simp [member]
  · intro d made
    right
    apply (outputStructs d made).mono
    intro d member
    obtain rfl | member := List.mem_cons.mp member
    · apply List.mem_cons_of_mem _ (List.mem_cons_of_mem _ List.mem_cons_self)
    · simp [member]

namespace Function

variable {contract assigned name : String} {arguments results : List Slot} {d : ClassDef}

/-- The class with the method of a function mentions the classes of the arguments. -/
theorem mentions_of_argument (h : methodOf contract assigned name arguments results ∈ d.methods)
    {s : Slot} (inside : s ∈ arguments) {struct : String}
    (named : s.structName? (inputStem contract assigned) = some struct) :
  d.Mentions struct
  := by
  apply ClassDef.mentions_of_method h _ (Slot.nesting_codeType named)
  apply List.mem_append_left
  rw [methodOf, List.map_map]
  apply List.mem_map_of_mem inside

/-- The class with the method of a function mentions the type of what the method returns. -/
theorem mentions_of_returned (h : methodOf contract assigned name arguments results ∈ d.methods)
    {type : String} (nesting : Nesting type (returned contract assigned results).2) :
  d.Mentions type
  := by
  apply ClassDef.mentions_of_method h _ nesting
  apply List.mem_append_right
  apply List.mem_singleton_self

/-- The structs of the arguments of a function are mentioned by the class with its method. -/
theorem mentionedIn_argumentStructs
    (h : methodOf contract assigned name arguments results ∈ d.methods)
    (called : d.name = contract) (spoken : Slot.SpokenAll arguments) :
  ∀ c ∈ Slot.structsAll (inputStem contract assigned) arguments,
    c.MentionedIn (d :: Slot.structsAll (inputStem contract assigned) arguments)
  := by
  apply Slot.mentionedIn_structsAll spoken
  · rw [called]
    apply ne_className_inputStem
  · intro s inside struct named
    apply mentions_of_argument h inside named

/-- The structs of a single output of a function are mentioned by the class with its method. -/
theorem mentionedIn_outputStructs {s : Slot}
    (h : methodOf contract assigned name arguments [s] ∈ d.methods)
    (called : d.name = contract) (spoken : Slot.SpokenAll [s]) :
  ∀ c ∈ Slot.structsAll (outputStem contract assigned) [s],
    c.MentionedIn (d :: Slot.structsAll (outputStem contract assigned) [s])
  := by
  apply Slot.mentionedIn_structsAll spoken
  · rw [called]
    apply ne_className_outputStem
  · intro s' inside struct named
    obtain rfl := List.mem_singleton.mp inside
    apply mentions_of_returned h
    apply Slot.nesting_codeType named

/-- The structs of several outputs of a function are mentioned by the class that holds them. -/
theorem mentionedIn_resultStructs (contract assigned : String) (spoken : Slot.SpokenAll results) :
  ∀ c ∈ Slot.structsAll (outputStem contract assigned) results,
    c.MentionedIn (resultClass contract assigned results
      :: Slot.structsAll (outputStem contract assigned) results)
  := by
  apply Slot.mentionedIn_structsAll spoken
  · apply Struct.append_ne_className (by decide)
  · intro s inside struct named
    apply ClassDef.mentions_of_field (v := ⟨s.name, s.codeType (outputStem contract assigned)⟩)
    · apply List.mem_map_of_mem inside
    · apply Slot.nesting_codeType named

/-- The class that holds the outputs of a function is mentioned by the class with its method. -/
theorem mentionedIn_of_length_ne_one (single : results.length ≠ 1)
    (h : methodOf contract assigned name arguments results ∈ d.methods)
    (called : d.name = contract) :
  (resultClass contract assigned results).MentionedIn [d]
  := by
  use d, List.mem_singleton_self d
  constructor
  · rw [called]
    apply ne_resultName
  · apply mentions_of_returned h
    rw [returned_of_length_ne_one single]
    apply Nesting.root

/-- The classes of a function are mentioned by the class with its method or by each other. -/
theorem mentionedIn_classesOf (h : methodOf contract assigned name arguments results ∈ d.methods)
    (called : d.name = contract) (inputs : Slot.SpokenAll arguments)
    (outputs : Slot.SpokenAll results) :
  ∀ c ∈ classesOf contract assigned arguments results,
    c.MentionedIn (d :: classesOf contract assigned arguments results)
  := by
  have argumentStructs := mentionedIn_argumentStructs h called inputs
  -- A single output is the type of the method itself; several are the fields of their class.
  by_cases single : results.length = 1
  · obtain ⟨s, rfl⟩ := List.length_eq_one_iff.mp single
    have structs := mentionedIn_outputStructs h called outputs
    rw [classesOf, if_pos single, List.nil_append, List.forall_mem_append]
    constructor
    · intro c made
      apply (structs c made).mono
      grind
    · intro c made
      apply (argumentStructs c made).mono
      grind
  · have structs := mentionedIn_resultStructs contract assigned outputs
    rw [classesOf, if_neg single, List.forall_mem_append, List.forall_mem_append,
      List.forall_mem_singleton]
    refine ⟨⟨?_, ?_⟩, ?_⟩
    · apply (mentionedIn_of_length_ne_one single h called).mono
      simp
    · intro c made
      apply (structs c made).mono
      grind
    · intro c made
      apply (argumentStructs c made).mono
      grind

end Function

namespace Interface

variable {i : Interface Parameter} {j : Interface Slot} (h : i.check? = .ok j)

include h

theorem mentionedIn_eventSection :
  ∀ c ∈ j.eventSection.classes, c.IsEntry ∨ c.MentionedIn j.eventSection.classes
  := by
  intro c made
  obtain ⟨⟨assigned, e⟩, there, made⟩ := List.mem_flatMap.mp made
  have inputs := spoken_namedEvents h _ there
  obtain entry | mentioned := Event.mentionedIn_classes inputs assigned c made
  · left
    apply entry
  · right
    apply mentioned.flatMap there

theorem mentionedIn_callSection :
  ∀ c ∈ j.callSection.classes, c.IsEntry ∨ c.MentionedIn j.callSection.classes
  := by
  intro c made
  obtain ⟨⟨assigned, call⟩, there, made⟩ := List.mem_flatMap.mp made
  obtain ⟨inputs, outputs⟩ := spoken_namedCalls h _ there
  obtain entry | mentioned := Call.mentionedIn_classes inputs outputs assigned c made
  · left
    apply entry
  · right
    apply mentioned.flatMap there

theorem mentionedIn_contractSection (allowed : List String) :
  ∀ c ∈ (j.contractSection allowed).classes,
    c.IsEntry ∨ c.MentionedIn (j.contractSection allowed).classes
  := by
  rw [contractSection, List.forall_mem_append, List.forall_mem_singleton]
  constructor
  · intro c made
    right
    obtain ⟨⟨assigned, f⟩, there, made⟩ := List.mem_flatMap.mp made
    obtain ⟨inputs, outputs⟩ := spoken_namedFunctions h allowed _ there
    have method : f.method j.name assigned ∈ (j.contractClass allowed).methods := by
      apply List.mem_cons_of_mem
      apply List.mem_map_of_mem there
    have mentioned := Function.mentionedIn_classesOf method rfl
      (Function.spokenAll_arguments inputs) (Function.spokenAll_results outputs) c made
    apply mentioned.mono
    apply List.cons_subset.mpr
    constructor
    · simp
    · apply List.subset_append_of_subset_left
      intro e inside
      apply List.mem_flatMap.mpr ⟨_, there, inside⟩
  · left
    simp [ClassDef.IsEntry, contractClass, contractClassOf]

end Interface

end ContractBindings
