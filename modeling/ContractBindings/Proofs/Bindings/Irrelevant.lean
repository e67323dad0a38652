import ContractBindings.Proofs.Interface.Relevant

/-!
# Irrelevant declarations have no effect

The bindings of an interface are those of what matters of it (`Interface.relevant`).  So interfaces
that differ in nothing that matters have the same bindings, or none either, whatever the options are
(`Interface.bindings?_of_relevant_eq`).
-/

namespace ContractBindings

/-! ## Getters and structs -/

namespace Slot

theorem codeType_plain (stem : String) (s : Slot) :
  s.plain.codeType stem = s.codeType stem
  := by
  rw [plain_eq]
  rfl

theorem encode_plain (stem : String) (s : Slot) (v : Expr) :
  s.plain.encode stem v = s.encode stem v
  := by
  rw [plain_eq]
  rfl

theorem decode_plain (stem : String) (s : Slot) (v : Expr) :
  s.plain.decode stem v = s.decode stem v
  := by
  rw [plain_eq]
  rfl

theorem getter_plain (source : Source) (stem : String) (position : Int) (s : Slot) :
  s.plain.getter source stem position = s.getter source stem position
  := by
  rw [plain_eq]
  rfl

/-- What matters of slots has their getters. -/
theorem getters_map_plain (source : Source) (stem : String) (slots : List Slot) :
  getters source stem (slots.map plain) = getters source stem slots
  := by
  apply List.ext_getElem <;> simp [getters, getter_plain]

mutual

/-- What matters of a slot has its structs. -/
theorem structs_plain (stem : String) (s : Slot) :
  s.plain.structs stem = s.structs stem
  := by
  obtain ⟨name, type, indexed, shape, fields⟩ := s
  rw [plain, structs, structs, structsAll_plainAll, Struct.classDef, Struct.classDef,
    plainAll_eq_map, getters_map_plain]

theorem structsAll_plainAll (stem : String) (slots : List Slot) :
  structsAll stem (plainAll slots) = structsAll stem slots
  := by
  obtain _ | ⟨s, ss⟩ := slots
  · rfl
  · rw [plainAll, structsAll, structsAll, structs_plain, structsAll_plainAll]

end

/-- What matters of slots has their structs. -/
theorem structsAll_map_plain (stem : String) (slots : List Slot) :
  structsAll stem (slots.map plain) = structsAll stem slots
  := by
  rw [← plainAll_eq_map, structsAll_plainAll]

/-- What matters of an input of an event is recorded as the input is, or as what matters of this. -/
theorem recorded_eventInput (s : Slot) :
  (relevance.eventInput s).recorded = s.recorded
    ∨ (relevance.eventInput s).recorded = s.recorded.plain
  := by
  obtain ⟨name, type, indexed, shape, fields⟩ := s
  cases hashed : Topic.isHashed type <;> cases indexed <;> simp [relevance, recorded, plain, hashed]

/-- What is recorded of what matters of inputs of an event has the getters of the inputs. -/
theorem getters_recorded_eventInput (source : Source) (stem : String) (slots : List Slot) :
  getters source stem ((slots.map relevance.eventInput).map recorded)
    = getters source stem (slots.map recorded)
  := by
  have each : ∀ (position : Int) (s : Slot),
      (relevance.eventInput s).recorded.getter source stem position
        = s.recorded.getter source stem position := by
    intro position s
    obtain same | same := recorded_eventInput s
    · rw [same]
    · rw [same, getter_plain]
  apply List.ext_getElem <;> simp [getters, each]

/-- What is recorded of what matters of inputs of an event has the structs of the inputs. -/
theorem structsAll_recorded_eventInput (stem : String) (slots : List Slot) :
  structsAll stem ((slots.map relevance.eventInput).map recorded)
    = structsAll stem (slots.map recorded)
  := by
  simp only [structsAll_eq_flatMap, List.map_map, List.flatMap_map]
  apply List.flatMap_congr
  intro s _
  obtain same | same := recorded_eventInput s
  · rw [Function.comp_apply, same]
  · rw [Function.comp_apply, same, structs_plain]

end Slot

/-! ## Sections -/

namespace Event

theorem parameters_relevant (e : Event Slot) :
  (e.relevant Slot.relevance).parameters = e.parameters.map Slot.relevance.eventInput
  := by
  apply Slot.named_map
  · intro s
    apply Slot.name_plain
  · rintro name ⟨_, _, _, _, _⟩
    rfl

/-- What matters of an event has its classes. -/
theorem classes_relevant (e : Event Slot) (assigned : String) :
  (e.relevant Slot.relevance).classes assigned = e.classes assigned
  := by
  rw [classes, classes, recorded, recorded, parameters_relevant, Slot.getters_recorded_eventInput,
    Slot.structsAll_recorded_eventInput]

/-- What matters of an event has its notes. -/
theorem notes_relevant (e : Event Slot) (assigned : String) :
  (e.relevant Slot.relevance).notes assigned = e.notes assigned
  := by
  rw [notes, notes, parameters_relevant, List.filter_map, List.map_map]
  simp only [Function.comp_def, Slot.relevance, Slot.plain_eq, Bool.and_assoc, Bool.and_self]

end Event

namespace Function

theorem arguments_relevant (f : Function Slot) :
  (f.relevant Slot.relevance).arguments = f.arguments.map Slot.plain
  := by
  apply Slot.named_map Slot.name_plain Slot.renamed_plain

/-- Results are named by their positions, so that it does not matter what outputs are called. -/
theorem results_relevant (f : Function Slot) :
  (f.relevant Slot.relevance).results = f.results.map Slot.plain
  := by
  have each : ∀ (name : String) (s : Slot),
      (Slot.relevance.output f.mutability s).renamed name = (s.renamed name).plain := by
    intro name s
    rw [Relevance.output, ← Slot.renamed_plain]
    split <;> rfl
  apply List.ext_getElem
  · simp [results, relevant]
  · intro position _ _
    simp only [results, relevant, List.getElem_mapIdx, List.getElem_map]
    apply each

theorem decodedResults_map_plain (stem : String) (results : List Slot) :
  decodedResults stem (results.map Slot.plain) = decodedResults stem results
  := by
  apply List.ext_getElem <;> simp [decodedResults, Slot.decode_plain]

theorem returned_map_plain (contract assigned : String) (results : List Slot) :
  returned contract assigned (results.map Slot.plain) = returned contract assigned results
  := by
  -- A single output is returned as it is, and not in an object.
  by_cases single : results.length = 1
  · obtain ⟨s, rfl⟩ := List.length_eq_one_iff.mp single
    change (s.plain.decode _ _, s.plain.codeType _) = _
    rw [Slot.decode_plain, Slot.codeType_plain]
    rfl
  · rw [returned_of_length_ne_one single, returned_of_length_ne_one, decodedResults_map_plain]
    rw [List.length_map]
    apply single

theorem resultClass_map_plain (contract assigned : String) (results : List Slot) :
  resultClass contract assigned (results.map Slot.plain) = resultClass contract assigned results
  := by
  simp only [resultClass, resultFields, List.map_map, Function.comp_def, Slot.name_plain,
    Slot.codeType_plain, Slot.encode_plain]

theorem isEmpty_outputs_relevant (f : Function Slot) :
  (f.relevant Slot.relevance).outputs.isEmpty = f.outputs.isEmpty
  := by
  rw [relevant, List.isEmpty_map]

theorem isReadable_relevant (allowed : List String) (f : Function Slot) :
  (f.relevant Slot.relevance).isReadable allowed = f.isReadable allowed
  := by
  rw [isReadable, isReadable, isEmpty_outputs_relevant]
  rfl

theorem notes_relevant (allowed : List String) (f : Function Slot) :
  (f.relevant Slot.relevance).notes allowed = f.notes allowed
  := by
  rw [notes, notes, isEmpty_outputs_relevant]
  rfl

/-- What matters of a function has its method. -/
theorem method_relevant (contract assigned : String) (f : Function Slot) :
  (f.relevant Slot.relevance).method contract assigned = f.method contract assigned
  := by
  rw [method, method, arguments_relevant, results_relevant, methodOf, methodOf, returned_map_plain]
  simp only [List.map_map, Function.comp_def, Slot.name_plain, Slot.codeType_plain,
    Slot.encode_plain]
  rfl

/-- What matters of a function has its classes. -/
theorem classes_relevant (contract assigned : String) (f : Function Slot) :
  (f.relevant Slot.relevance).classes contract assigned = f.classes contract assigned
  := by
  rw [classes, classes, arguments_relevant, results_relevant, classesOf, classesOf,
    List.length_map, resultClass_map_plain, Slot.structsAll_map_plain, Slot.structsAll_map_plain]

end Function

namespace Call

/-- What matters of a call has its classes. -/
theorem classes_relevant (c : Call Slot) (assigned : String) :
  (c.relevant Slot.relevance).classes assigned = c.classes assigned
  := by
  have inputs : (c.relevant Slot.relevance).namedInputs = c.namedInputs.map Slot.plain := by
    apply Slot.named_map Slot.name_plain Slot.renamed_plain
  have outputs : (c.relevant Slot.relevance).namedOutputs = c.namedOutputs.map Slot.plain := by
    apply Slot.named_map Slot.name_plain Slot.renamed_plain
  rw [classes, classes, inputs, outputs, Slot.getters_map_plain, Slot.getters_map_plain,
    Slot.structsAll_map_plain, Slot.structsAll_map_plain]

end Call

namespace Interface

variable (j : Interface Slot)

/-- What is taken from members is taken from what matters of them. -/
theorem filterMap_members_relevant {β : Type} {part? : Member Slot → Option β} {change : β → β}
    (each : ∀ m : Member Slot, part? (m.relevant Slot.relevance) = (part? m).map change) :
  (j.relevant Slot.relevance).members.filterMap part? = (j.members.filterMap part?).map change
  := by
  rw [relevant, List.filterMap_map, List.map_filterMap]
  apply List.filterMap_congr
  intro m _
  apply each

theorem events_relevant :
  (j.relevant Slot.relevance).events = j.events.map (Event.relevant Slot.relevance)
  := by
  apply filterMap_members_relevant
  rintro (_ | _ | _ | _) <;> rfl

theorem functions_relevant :
  (j.relevant Slot.relevance).functions = j.functions.map (Function.relevant Slot.relevance)
  := by
  apply filterMap_members_relevant
  rintro (_ | _ | _ | _) <;> rfl

theorem calls_relevant :
  (j.relevant Slot.relevance).calls = j.calls.map (Call.relevant Slot.relevance)
  := by
  apply filterMap_members_relevant
  rintro (f | _ | _ | mutability)
  · by_cases called : f.mutability ∈ Mutability.changing <;>
      simp [Member.relevant, Member.call?, Member.isCall, Function.relevant, Relevance.output,
        called, Call.relevant, Member.callName, Member.inputs, Member.outputs]
  · rfl
  · rfl
  · by_cases called : mutability ∈ Mutability.changing <;>
      simp [Member.relevant, Member.call?, Member.isCall, called, Call.relevant, Member.callName,
        Member.inputs, Member.outputs]

/-- What matters of an interface has its section of events. -/
theorem eventSection_relevant :
  (j.relevant Slot.relevance).eventSection = j.eventSection
  := by
  have named : (j.relevant Slot.relevance).namedEvents
      = j.namedEvents.map (Prod.map id (Event.relevant Slot.relevance)) := by
    rw [namedEvents, namedEvents, events_relevant, List.map_map, List.zip_map_right]
    rfl
  rw [eventSection, eventSection, named, events_relevant, List.map_map, List.flatMap_map,
    List.flatMap_map]
  simp only [Prod.map, id, Event.classes_relevant, Event.notes_relevant]
  rfl

/-- What matters of an interface has its section of calls. -/
theorem callSection_relevant :
  (j.relevant Slot.relevance).callSection = j.callSection
  := by
  have candidates : (j.relevant Slot.relevance).callCandidates = j.callCandidates := by
    rw [callCandidates, callCandidates, calls_relevant, List.map_map]
    rfl
  rw [callSection, callSection, namedCalls, namedCalls, candidates, calls_relevant,
    List.zip_map_right, List.flatMap_map]
  simp only [Prod.map, id, Call.classes_relevant]

/-- What matters of an interface has its section of the contract. -/
theorem contractSection_relevant (allowed : List String) :
  (j.relevant Slot.relevance).contractSection allowed = j.contractSection allowed
  := by
  have readable : (j.relevant Slot.relevance).readable allowed
      = (j.readable allowed).map (Function.relevant Slot.relevance) := by
    rw [Interface.readable, Interface.readable, functions_relevant, List.filter_map]
    simp only [Function.comp_def, Function.isReadable_relevant]
  have candidates : (j.relevant Slot.relevance).methodCandidates allowed
      = j.methodCandidates allowed := by
    rw [methodCandidates, methodCandidates, readable, List.map_map]
    rfl
  have named : (j.relevant Slot.relevance).namedFunctions allowed
      = (j.namedFunctions allowed).map (Prod.map id (Function.relevant Slot.relevance)) := by
    rw [namedFunctions, namedFunctions, candidates, readable, List.zip_map_right]
  rw [contractSection, contractSection, contractClass, contractClass, named, candidates,
    functions_relevant, List.flatMap_map, List.flatMap_map, List.map_map]
  simp only [Prod.map, id, Function.comp_def, Function.classes_relevant, Function.method_relevant,
    Function.notes_relevant]
  rfl

/-- What matters of a checked interface has its bindings. -/
theorem bindings_relevant (options : Options) :
  (j.relevant Slot.relevance).bindings options = j.bindings options
  := by
  rw [bindings, bindings, sections, sections, eventSection_relevant, contractSection_relevant,
    callSection_relevant]

/-! ## Two interfaces -/

/-- What matters of an interface has its bindings, or none if it has none. -/
theorem toOption_bindings?_relevant (options : Options) (i : Interface Parameter) :
  ((i.relevant Parameter.relevance).bindings? options).toOption = (i.bindings? options).toOption
  := by
  rw [bindings?, bindings?, Fault.toOption_map, Fault.toOption_map, toOption_check?_relevant,
    Option.map_map]
  congr 1
  ext1 j
  apply bindings_relevant

/-- Interfaces that differ in nothing that matters have the same bindings, or none either, whatever
the options are. -/
theorem bindings?_of_relevant_eq (options : Options) {i i' : Interface Parameter}
    (same : i.relevant Parameter.relevance = i'.relevant Parameter.relevance) :
  (∃ fault fault', i.bindings? options = .error fault ∧ i'.bindings? options = .error fault')
    ∨ ∃ b, i.bindings? options = .ok b ∧ i'.bindings? options = .ok b
  := by
  apply Fault.error_or_ok_of_toOption_eq
  rw [← toOption_bindings?_relevant options i, same, toOption_bindings?_relevant]

/-- An interface with something of each kind that does not matter: whether an event is anonymous and
other inputs are indexed, spare components, the label of an output, and the mutability of a
constructor. -/
def treasury (flag : Bool) (spare : Option (List Parameter)) (label : Option String)
    (mutability : String) : Interface Parameter where
  name := "Treasury"
  members :=
    [.constructor [{ type := "uint8", components := spare }] mutability,
     .event
      { name := "Moved"
        inputs := [{ type := "string", indexed := true }, { type := "uint8", indexed := flag }]
        anonymous := flag },
     .function
      { name := "total"
        inputs := [{ type := "address", indexed := flag }]
        outputs := [{ type := "uint256", name := label }]
        mutability := "view" }]

/-- The treasury with something to say. -/
def wordyTreasury : Interface Parameter :=
  treasury true (some [{ type := "?" }]) (some "sum") "payable"

/-- The treasury with nothing to say. -/
def terseTreasury : Interface Parameter :=
  treasury false none none "nonpayable"

theorem bindings?_of_relevant_eq_treasury :
  wordyTreasury ≠ terseTreasury
    ∧ wordyTreasury.relevant Parameter.relevance = terseTreasury.relevant Parameter.relevance
    ∧ ∃ b, wordyTreasury.bindings? {} = .ok b ∧ terseTreasury.bindings? {} = .ok b
  := by
  have accepted : terseTreasury.check?.isOk := by
    decide +kernel
  have same : wordyTreasury.relevant Parameter.relevance
      = terseTreasury.relevant Parameter.relevance := by
    decide +kernel
  have differs : wordyTreasury ≠ terseTreasury := by
    decide
  use differs, same
  obtain ⟨fault, fault', -, refused⟩ | made := bindings?_of_relevant_eq {} same
  · obtain ⟨b, made⟩ := exists_bindings?_of_isOk accepted {}
    rw [made] at refused
    cases refused
  · apply made

end Interface

end ContractBindings
