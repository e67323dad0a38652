import ContractBindings.Proofs.Bindings.Outcome
import ContractBindings.Proofs.Interface.Members

/-!
# Sections are independent

Each section of bindings is made from members of some kinds only, in their order: that of the
events from the events, that of the calls from all other members, and that of the contract from
the functions, the name of the contract and the mutabilities that may be read.  What else an
interface declares, and where, does not matter to it (`Interface.independent_sections`).

So the order of events among other members does not matter to the bindings at all.
-/

namespace ContractBindings

namespace Interface

/-- The sections of the bindings of an interface. -/
def sections? (options : Options) (i : Interface Parameter) : Except Fault (List Section) :=
  i.check?.map (sections options)

/-! ## What a section is made from -/

section

variable {α : Type}

/-- What is taken from members may be taken from those of some kind only, when the others give
nothing. -/
theorem filterMap_filter_of_none {β : Type} {part? : Member α → Option β}
    {kind : Member α → Bool} (none_of : ∀ m, kind m = false → part? m = none)
    (ms : List (Member α)) :
  (ms.filter kind).filterMap part? = ms.filterMap part?
  := by
  rw [List.filterMap_filter]
  apply List.filterMap_congr
  intro m _
  cases h : kind m with
  | true => rfl
  | false => rw [none_of m h, if_neg Bool.false_ne_true]

variable (i : Interface α)

/-- The events are among the members that are events. -/
theorem events_eq :
  (i.members.filter Member.isEvent).filterMap Member.event? = i.events
  := by
  apply filterMap_filter_of_none
  rintro (_ | _ | _ | _) ⟨⟩ <;> rfl

/-- The functions are among the members that are functions. -/
theorem functions_eq :
  (i.members.filter Member.isFunction).filterMap Member.function? = i.functions
  := by
  apply filterMap_filter_of_none
  rintro (_ | _ | _ | _) ⟨⟩ <;> rfl

/-- The calls are among the members that are not events. -/
theorem calls_eq :
  (i.members.filter (!·.isEvent)).filterMap Member.call? = i.calls
  := by
  apply filterMap_filter_of_none
  rintro (_ | _ | _ | _) ⟨⟩
  rfl

end

variable {i i' : Interface Slot}

theorem eventSection_congr (events : i.events = i'.events) :
  i.eventSection = i'.eventSection
  := by
  rw [eventSection, eventSection, namedEvents, namedEvents, events]

theorem callSection_congr (calls : i.calls = i'.calls) :
  i.callSection = i'.callSection
  := by
  have candidates : i.callCandidates = i'.callCandidates := by
    rw [callCandidates, callCandidates, calls]
  rw [callSection, callSection, namedCalls, namedCalls, candidates, calls]

/-- Only which mutabilities are allowed matters to what can be read, and not how they are
listed. -/
theorem readable_congr {allowed allowed' : List String} (functions : i.functions = i'.functions)
    (same : ∀ word, word ∈ allowed ↔ word ∈ allowed') :
  i.readable allowed = i'.readable allowed'
  := by
  rw [readable, readable, functions]
  apply List.filter_congr
  intro f _
  simp [Function.isReadable, same]

theorem contractSection_congr {allowed allowed' : List String} (name : i.name = i'.name)
    (functions : i.functions = i'.functions) (same : ∀ word, word ∈ allowed ↔ word ∈ allowed') :
  i.contractSection allowed = i'.contractSection allowed'
  := by
  have readable := readable_congr functions same
  have candidates : i.methodCandidates allowed = i'.methodCandidates allowed' := by
    rw [methodCandidates, methodCandidates, readable]
  have named : i.namedFunctions allowed = i'.namedFunctions allowed' := by
    rw [namedFunctions, namedFunctions, candidates, readable]
  have notes : (Function.notes allowed : Function Slot → List Note) = Function.notes allowed' := by
    ext f : 1
    simp only [Function.notes, same]
  rw [contractSection, contractSection, contractClass, contractClass, named, candidates, name,
    functions, notes]

/-! ## Two interfaces -/

section

variable {i₁ i₂ : Interface Parameter} {j₁ j₂ : Interface Slot} (h₁ : i₁.check? = .ok j₁)
  (h₂ : i₂.check? = .ok j₂)

include h₁ h₂

/-- Interfaces with the same events have the same section of events. -/
theorem eventSection_eq
    (events : i₁.members.filter Member.isEvent = i₂.members.filter Member.isEvent) :
  j₁.eventSection = j₂.eventSection
  := by
  apply eventSection_congr
  rw [← events_eq, ← events_eq, filter_members_eq_of_check? Member.isEvent_of_passes h₁ h₂ events]

/-- Interfaces with the same members apart from events have the same section of calls. -/
theorem callSection_eq
    (others : i₁.members.filter (!·.isEvent) = i₂.members.filter (!·.isEvent)) :
  j₁.callSection = j₂.callSection
  := by
  have kept : ∀ {m : Member Parameter} {m' : Member Slot}, m.Passes m' →
      (!m'.isEvent) = !m.isEvent := by
    intro m m' passes
    rw [Member.isEvent_of_passes passes]
  apply callSection_congr
  rw [← calls_eq, ← calls_eq, filter_members_eq_of_check? kept h₁ h₂ others]

/-- Interfaces of one name with the same functions have the same section of the contract, for the
same mutabilities. -/
theorem contractSection_eq {allowed allowed' : List String} (name : i₁.name = i₂.name)
    (functions : i₁.members.filter Member.isFunction = i₂.members.filter Member.isFunction)
    (same : ∀ word, word ∈ allowed ↔ word ∈ allowed') :
  j₁.contractSection allowed = j₂.contractSection allowed'
  := by
  apply contractSection_congr _ _ same
  · rw [(check?_eq_ok_iff.mp h₁).1, (check?_eq_ok_iff.mp h₂).1, name]
  · rw [← functions_eq, ← functions_eq,
      filter_members_eq_of_check? Member.isFunction_of_passes h₁ h₂ functions]

end

/-- Interfaces with the same events and the same other members have bindings together. -/
theorem exists_bindings?_congr (options : Options) {i₁ i₂ : Interface Parameter}
    (events : i₁.members.filter Member.isEvent = i₂.members.filter Member.isEvent)
    (others : i₁.members.filter (!·.isEvent) = i₂.members.filter (!·.isEvent)) :
  (∃ b, i₁.bindings? options = .ok b) ↔ ∃ b, i₂.bindings? options = .ok b
  := by
  have reordered : i₁.members.Perm i₂.members := by
    apply (List.filter_append_perm Member.isEvent i₁.members).symm.trans
    rw [events, others]
    apply List.filter_append_perm
  have places : ∀ q, q ∈ i₁.places ↔ q ∈ i₂.places := by
    intro q
    apply (reordered.flatMap_right Member.places).mem_iff
  simp only [exists_bindings?_iff, places]

/-- The functions are among the members that are not events. -/
theorem filter_isFunction_eq {α : Type} (ms : List (Member α)) :
  ms.filter Member.isFunction = (ms.filter (!·.isEvent)).filter Member.isFunction
  := by
  rw [List.filter_filter]
  apply List.filter_congr
  rintro (_ | _ | _ | _) _ <;> rfl

/-- An interface in which events and other members keep their orders has the same bindings. -/
theorem bindings?_eq_ok_of_reordered {options : Options} {i₁ i₂ : Interface Parameter}
    {b : Bindings} (made : i₁.bindings? options = .ok b) (name : i₁.name = i₂.name)
    (events : i₁.members.filter Member.isEvent = i₂.members.filter Member.isEvent)
    (others : i₁.members.filter (!·.isEvent) = i₂.members.filter (!·.isEvent)) :
  i₂.bindings? options = .ok b
  := by
  have functions : i₁.members.filter Member.isFunction = i₂.members.filter Member.isFunction := by
    rw [filter_isFunction_eq, others, ← filter_isFunction_eq]
  obtain ⟨_, made₂⟩ := (exists_bindings?_congr options events others).mp ⟨b, made⟩
  obtain ⟨j₁, checked₁, rfl⟩ := bindings?_eq_ok_iff.mp made
  obtain ⟨j₂, checked₂, -⟩ := bindings?_eq_ok_iff.mp made₂
  apply bindings?_eq_ok_iff.mpr
  use j₂, checked₂
  rw [bindings, bindings, sections, sections, eventSection_eq checked₁ checked₂ events,
    callSection_eq checked₁ checked₂ others,
    contractSection_eq checked₁ checked₂ name functions fun _ => Iff.rfl]

/-- Bindings of an interface that are made of sections. -/
structure MadeOf (options : Options) (i : Interface Parameter) (b : Bindings)
    (events contract calls : Section) : Prop where
  sections : i.sections? options = .ok [events, contract, calls]
  classes : b.classes = events.classes ++ contract.classes ++ calls.classes
  notes : b.notes = events.notes ++ contract.notes ++ calls.notes

/-- The bindings of an interface that passes its check are made of the sections of its slots. -/
theorem madeOf_sections (options : Options) {i : Interface Parameter} {j : Interface Slot}
    (h : i.check? = .ok j) :
  i.MadeOf options (j.bindings options) j.eventSection (j.contractSection options.allowed)
    j.callSection
  := by
  constructor
  · rw [sections?, h]
    rfl
  · simp [bindings, sections]
  · simp [bindings, sections]

/-- Sections depend on what they are made from only: those of events and of calls on the members
of their kinds, in order, and those of the contract on its name, the functions and the mutabilities
allowed.  So an interface in which events and other members keep their orders has the same
bindings, or none either. -/
theorem independent_sections :
  (∀ {options options' : Options} {i i' : Interface Parameter} {b b' : Bindings},
    i.bindings? options = .ok b → i'.bindings? options' = .ok b' →
      ∃ events contract calls events' contract' calls',
        i.MadeOf options b events contract calls
        ∧ i'.MadeOf options' b' events' contract' calls'
        ∧ (i.members.filter Member.isEvent = i'.members.filter Member.isEvent → events = events')
        ∧ (i.members.filter (!·.isEvent) = i'.members.filter (!·.isEvent) → calls = calls')
        ∧ (i.name = i'.name
          → i.members.filter Member.isFunction = i'.members.filter Member.isFunction
          → (∀ word, word ∈ options.allowed ↔ word ∈ options'.allowed)
          → contract = contract'))
  ∧ ∀ (options : Options) {i i' : Interface Parameter}, i.name = i'.name
    → i.members.filter Member.isEvent = i'.members.filter Member.isEvent
    → i.members.filter (!·.isEvent) = i'.members.filter (!·.isEvent)
    → (∃ fault fault', i.bindings? options = .error fault ∧ i'.bindings? options = .error fault')
      ∨ ∃ b, i.bindings? options = .ok b ∧ i'.bindings? options = .ok b
  := by
  constructor
  · intro options options' i i' b b' made made'
    obtain ⟨j, checked, rfl⟩ := bindings?_eq_ok_iff.mp made
    obtain ⟨j', checked', rfl⟩ := bindings?_eq_ok_iff.mp made'
    refine ⟨_, _, _, _, _, _, madeOf_sections options checked, madeOf_sections options' checked',
      ?_, ?_, ?_⟩
    · apply eventSection_eq checked checked'
    · apply callSection_eq checked checked'
    · apply contractSection_eq checked checked'
  · intro options i i' name events others
    cases made : i.bindings? options with
    | error fault =>
        left
        cases made' : i'.bindings? options with
        | error fault' => exact ⟨fault, fault', rfl, rfl⟩
        | ok b' =>
            have again := bindings?_eq_ok_of_reordered made' name.symm events.symm others.symm
            rw [made] at again
            cases again
    | ok b =>
        right
        use b, rfl, bindings?_eq_ok_of_reordered made name events others

/-- An event with an indexed parameter of the given type. -/
def moved (type : String) : Member Parameter :=
  .event { name := "Moved", inputs := [{ type := type, indexed := true }], anonymous := false }

/-- A function that can be read and called. -/
def total : Member Parameter :=
  .function
    { name := "total"
      inputs := []
      outputs := [{ type := "uint256" }]
      mutability := "nonpayable" }

/-- Two events of one name with a function between them. -/
def ledger : Interface Parameter where
  name := "Ledger"
  members := [moved "uint8", total, moved "string"]

/-- The same with the function last. -/
def sortedLedger : Interface Parameter where
  name := "Ledger"
  members := [moved "uint8", moved "string", total]

/-- Options that allow the usual mutabilities in another order, and import from elsewhere. -/
def otherOptions : Options where
  allowed := Mutability.readable.reverse
  module := "./runtime"

theorem independent_sections_ledger :
  (∃ b b' events contract calls,
    ledger.bindings? {} = .ok b ∧ sortedLedger.bindings? otherOptions = .ok b'
    ∧ ledger.MadeOf {} b events contract calls
    ∧ sortedLedger.MadeOf otherOptions b' events contract calls)
  ∧ ∃ b, ledger.bindings? {} = .ok b ∧ sortedLedger.bindings? {} = .ok b
  := by
  have accepted : ledger.check?.isOk := by
    decide +kernel
  have accepted' : sortedLedger.check?.isOk := by
    decide +kernel
  have name : ledger.name = sortedLedger.name := by
    rfl
  have events : ledger.members.filter Member.isEvent
      = sortedLedger.members.filter Member.isEvent := by
    rfl
  have others : ledger.members.filter (!·.isEvent)
      = sortedLedger.members.filter (!·.isEvent) := by
    rfl
  have functions : ledger.members.filter Member.isFunction
      = sortedLedger.members.filter Member.isFunction := by
    rfl
  obtain ⟨b, made⟩ := exists_bindings?_of_isOk accepted {}
  obtain ⟨b', made'⟩ := exists_bindings?_of_isOk accepted' otherOptions
  constructor
  · obtain ⟨e, c, k, e', c', k', whole, whole', sameEvents, sameCalls, sameContract⟩ :=
      independent_sections.1 made made'
    obtain rfl := sameEvents events
    obtain rfl := sameCalls others
    obtain rfl := sameContract name functions fun word => List.mem_reverse.symm
    exact ⟨b, b', e, c, k, made, made', whole, whole'⟩
  · obtain ⟨fault, -, refused, -⟩ | same :=
      independent_sections.2 {} name events others
    · rw [made] at refused
      cases refused
    · apply same

end Interface

end ContractBindings
