import ContractBindings.Proofs.Bindings.ContractClass
import ContractBindings.Proofs.Section.Unchecked
import ContractBindings.Proofs.Types.Text
import Mathlib.Data.List.Forall2
import Mathlib.Tactic.Common

/-!
# The notes on bindings

The notes on bindings can be told from the declared members alone.  They are, in this order and
with nothing else: the events that are renamed; event by event, the inputs that are known by their
digest only; function by function, those without outputs and those with outputs that may not be
read; the methods that are renamed; and the calls that are renamed.  This list is `Interface.log`.

A function that has no note of its own has a method, and no other function has: the methods of the
contract, after the one that binds it, are those of the functions without a note, in order
(`Interface.notes_of_bindings?`).
-/

namespace ContractBindings

namespace Topic

/-- An indexed value is known by its digest only when it is of unbounded size, a tuple or an
array. -/
theorem isHashed_iff (type : String) :
  isHashed type = true ↔ type ∈ ["string", "bytes", "tuple"] ∨ TypeText.isArray type = true
  := by
  have names : type ∈ hashedNames ↔ type ∈ ["string", "bytes", "tuple"] := by
    simp only [hashedNames, Shape.tupleName, List.mem_cons, List.not_mem_nil, or_false]
    apply or_left_comm
  rw [← names, TypeText.isArray_eq, isHashed, decide_eq_true_eq, typeOf]
  split
  · next hashed =>
    constructor
    · intro _
      apply hashed
    · rintro - rfl
      -- A digest has neither the name of a hashed type nor brackets.
      revert hashed
      decide +kernel
  · next kept =>
    constructor
    · intro changed
      exact absurd rfl changed
    · intro hashed
      exact absurd hashed kept

end Topic

/-! ## What is noted -/

/-- The notes on candidates for names within a scope that are assigned other names. -/
def Note.renamedAll (scope : String) (candidates : List String) : List Note :=
  ((candidates.zip (Name.distinct candidates)).filter fun x => x.2 ≠ x.1).map fun x =>
    { severity := .info
      code := "I003"
      message := "Duplicate name \"" ++ x.1 ++ "\" renamed to \"" ++ x.2 ++ "\"."
      member := scope
      construct := "name" }

/-- Whether an input of an event is known by its digest only: it is indexed, and of type `string`,
`bytes` or `tuple` or an array. -/
def Parameter.isDigested (p : Parameter) : Bool :=
  p.indexed && (decide (p.type ∈ ["string", "bytes", "tuple"]) || TypeText.isArray p.type)

/-- The inputs of an event that are known by their digests only are those that are recorded as
digests. -/
theorem Parameter.isDigested_eq (p : Parameter) :
  p.isDigested = (p.indexed && Topic.isHashed p.type)
  := by
  rw [isDigested, Bool.eq_iff_iff]
  simp only [Bool.and_eq_true, Bool.or_eq_true, decide_eq_true_eq, Topic.isHashed_iff]

/-- The notes on the inputs of an event that are known by their digests only. -/
def Event.digestNotes (e : Event Parameter) (assigned : String) : List Note :=
  ((Parameter.named Source.eventParameters.word [] e.inputs).filter Parameter.isDigested).map
    fun p =>
      { severity := .info
        code := "I002"
        message := "Indexed parameter \"" ++ p.label ++ "\" of type " ++ p.type
          ++ " is decoded as its bytes32 topic hash."
        member := assigned
        construct := "event" }

/-- The note on a function without a method: that it has no outputs, or else that it may not be
read. -/
def Function.note? {α : Type} (allowed : List String) (f : Function α) : Option Note :=
  if f.outputs.isEmpty then
    some
      { severity := .info
        code := "I001"
        message := "Function has no outputs; no contract wrapper method generated."
        member := f.name
        construct := "function" }
  else if f.mutability ∈ allowed then none
  else
    some
      { severity := .warning
        code := "W001"
        message := "Function is " ++ f.mutability
          ++ "; not exposed on the contract wrapper despite having outputs."
        member := f.name
        construct := "function" }

/-- The method that is made for a function of a contract under a name. -/
structure Function.HasMethod (contract assigned : String) (f : Function Parameter) (w : Method) :
    Prop where
  name : w.name = assigned
  made : ∃ classes, f.parts? contract assigned = .ok (w, classes)

namespace Interface

/-- The functions without a note of their own. -/
def unnoted {α : Type} (allowed : List String) (i : Interface α) : List (Function α) :=
  i.functions.filter fun f => (f.note? allowed).isNone

/-- The names that are asked for their methods. -/
def unnotedNames {α : Type} (allowed : List String) (i : Interface α) : List String :=
  (i.unnoted allowed).map fun f => Name.escape [] f.name

/-- The functions without a note of their own, each with the name that its method is assigned. -/
def namedUnnoted {α : Type} (allowed : List String) (i : Interface α) :
    List (String × Function α) :=
  (Name.distinct (i.unnotedNames allowed)).zip (i.unnoted allowed)

/-- The notes on the bindings of an interface, told from its declared members. -/
def log (allowed : List String) (i : Interface Parameter) : List Note :=
  Note.renamedAll "events" (i.events.map (·.name))
    ++ i.namedEvents.flatMap (fun x => x.2.digestNotes x.1)
    ++ i.functions.filterMap (Function.note? allowed)
    ++ Note.renamedAll i.name (i.unnotedNames allowed)
    ++ Note.renamedAll "call functions" i.callCandidates

end Interface

/-- A candidate is noted as renamed if and only if it is assigned another name. -/
theorem Note.map_renamed_renames (scope : String) (candidates : List String) :
  ((Name.renames candidates).map fun x => Note.renamed scope x.1 x.2)
    = renamedAll scope candidates
  := by
  rw [Name.renames, Name.Naming.renames_eq_filter]
  rfl

/-! ## Digests -/

/-- A parameter with a slot that says the same of it. -/
structure Parameter.Told (p : Parameter) (s : Slot) : Prop where
  name : s.name = p.label
  type : s.type = p.type
  indexed : s.indexed = p.indexed

/-- Parameters that pass the check are told by their slots, also under other names. -/
theorem Parameter.forall₂_told_of_checkAll? {context : String} {ps : List Parameter}
    {slots : List Slot} (h : checkAll? context ps = .ok slots) (names : List String) :
  List.Forall₂ Told (List.zipWith renamed names ps) (List.zipWith Slot.renamed names slots)
  := by
  induction ps generalizing names slots with
  | nil =>
      obtain rfl := Except.ok.inj h
      rw [List.zipWith_nil_right, List.zipWith_nil_right]
      apply List.Forall₂.nil
  | cons p ps ih =>
      obtain ⟨s, ss, checked, rest, rfl⟩ := checkAll?_cons_eq_ok_iff.mp h
      obtain ⟨shape, fields, -, -, rfl⟩ := check?_eq_ok_iff.mp checked
      obtain _ | ⟨name, names⟩ := names
      · apply List.Forall₂.nil
      · apply List.Forall₂.cons ⟨rfl, rfl, rfl⟩ (ih rest names)

/-- The notes on the parameters of an event are those on its declared inputs. -/
theorem Event.notes_of_checked {e : Event Parameter} {e' : Event Slot} (h : Checked e e')
    (assigned : String) :
  e'.notes assigned = e.digestNotes assigned
  := by
  obtain ⟨context, checked⟩ := h.inputs
  have told := Parameter.forall₂_told_of_checkAll? checked
    (Name.siblings Source.eventParameters.word [] (e.inputs.map Parameter.label))
  have digested : List.Forall₂ Parameter.Told
      ((Parameter.named Source.eventParameters.word [] e.inputs).filter Parameter.isDigested)
      (e'.parameters.filter fun s => s.indexed && Topic.isHashed s.type) := by
    rw [parameters, Slot.named, Parameter.map_name_of_checkAll? checked]
    apply List.rel_filter _ told
    intro p s same
    simp only [same.type, same.indexed, Parameter.isDigested_eq]
  apply map_eq_map_of_forall₂ _ digested
  intro p s same
  rw [same.name, same.type]
  rfl

/-! ## Functions with and without a note -/

namespace Function

variable {α : Type} (allowed : List String)

theorem notes_eq_toList (f : Function α) :
  f.notes allowed = (f.note? allowed).toList
  := by
  rw [notes, note?]
  split
  · rfl
  · split <;> rfl

/-- A function can be read if and only if it has no note of its own. -/
theorem isReadable_eq_isNone (f : Function α) :
  f.isReadable allowed = (f.note? allowed).isNone
  := by
  rw [isReadable, note?]
  cases f.outputs.isEmpty with
  | true => rfl
  | false => by_cases read : f.mutability ∈ allowed <;> simp [read]

/-- The slots of a function do not change its note. -/
theorem Checked.note?_eq {f : Function Parameter} {f' : Function Slot} (h : Checked f f') :
  f'.note? allowed = f.note? allowed
  := by
  have empty : f'.outputs.isEmpty = f.outputs.isEmpty := by
    rw [Bool.eq_iff_iff, List.isEmpty_iff_length_eq_zero, List.isEmpty_iff_length_eq_zero,
      h.outputs.length_eq]
  rw [note?, note?, empty, h.name, h.mutability]

end Function

namespace Interface

theorem readable_eq_unnoted {α : Type} (allowed : List String) (i : Interface α) :
  i.readable allowed = i.unnoted allowed
  := by
  apply List.filter_congr
  intro f _
  apply f.isReadable_eq_isNone allowed

theorem methodCandidates_eq {α : Type} (allowed : List String) (i : Interface α) :
  i.methodCandidates allowed = i.unnotedNames allowed
  := by
  rw [methodCandidates, unnotedNames, readable_eq_unnoted]

/-- Each function has either a note of its own or none. -/
theorem length_noted_add_length_unnoted (allowed : List String) (i : Interface Parameter) :
  (i.functions.filterMap (Function.note? allowed)).length + (i.unnoted allowed).length
    = i.functions.length
  := by
  rw [List.length_filterMap_eq_countP, unnoted, ← List.countP_eq_length_filter,
    List.length_eq_countP_add_countP fun f => (Function.note? allowed f).isSome]
  congr 1
  apply List.countP_congr
  intro f _
  simp

/-! ## The sections of an interface that passes its check -/

section

variable {i : Interface Parameter} {j : Interface Slot} (h : i.check? = .ok j)

include h

/-- The notes on the section of events. -/
theorem notes_eventSection :
  j.eventSection.notes
    = Note.renamedAll "events" (i.events.map (·.name))
      ++ i.namedEvents.flatMap fun x => x.2.digestNotes x.1
  := by
  have names : j.events.map (·.name) = i.events.map (·.name) := by
    apply map_eq_map_of_forall₂ _ (forall₂_events h)
    intro e e' checked
    apply checked.name
  have digests : j.namedEvents.map (fun x => x.2.notes x.1)
      = i.namedEvents.map fun x => x.2.digestNotes x.1 := by
    apply map_eq_map_of_forall₂ _ (forall₂_namedEvents h)
    rintro ⟨assigned, e⟩ ⟨assigned', e'⟩ ⟨rfl, checked⟩
    apply Event.notes_of_checked checked
  rw [List.flatMap_def, ← digests, ← List.flatMap_def, ← names, ← Note.map_renamed_renames]
  rfl

/-- The notes on the section of the contract. -/
theorem notes_contractSection (allowed : List String) :
  (j.contractSection allowed).notes
    = i.functions.filterMap (Function.note? allowed)
      ++ Note.renamedAll i.name (i.unnotedNames allowed)
  := by
  have functions : List.Forall₂ Function.Checked i.functions j.functions := by
    apply List.rel_filterMap _ (name_and_members_of_check? h).2
    apply Member.rel_function?
  have own : j.functions.map (Function.note? allowed)
      = i.functions.map (Function.note? allowed) := by
    apply map_eq_map_of_forall₂ _ functions
    intro f f' checked
    apply checked.note?_eq
  have noted : j.functions.flatMap (Function.notes allowed)
      = i.functions.filterMap (Function.note? allowed) := by
    calc j.functions.flatMap (Function.notes allowed)
      _ = (j.functions.map (Function.note? allowed)).flatMap Option.toList := by
        rw [List.flatMap_map]
        apply List.flatMap_congr
        intro f _
        apply f.notes_eq_toList
      _ = i.functions.filterMap (Function.note? allowed) := by
        rw [own, List.flatMap_map, List.filterMap_eq_flatMap_toList]
  have candidates : j.methodCandidates allowed = i.unnotedNames allowed := by
    rw [← methodCandidates_eq]
    apply map_eq_map_of_forall₂ _ (forall₂_readable allowed h)
    intro f f' checked
    rw [checked.name]
  rw [contractSection, noted, candidates, (name_and_members_of_check? h).1,
    ← Note.map_renamed_renames]

/-- The notes on the section of calls. -/
theorem notes_callSection :
  j.callSection.notes = Note.renamedAll "call functions" i.callCandidates
  := by
  have candidates : j.callCandidates = i.callCandidates := by
    apply map_eq_map_of_forall₂ _ (forall₂_calls h)
    intro c c' checked
    rw [checked.name]
  rw [callSection, candidates, ← Note.map_renamed_renames]

/-- The notes on the bindings of an interface are its log. -/
theorem notes_bindings (options : Options) :
  (j.bindings options).notes = i.log options.allowed
  := by
  calc (j.bindings options).notes
    _ = j.eventSection.notes
        ++ ((j.contractSection options.allowed).notes ++ j.callSection.notes) := by
      simp [bindings, sections]
    _ = i.log options.allowed := by
      rw [notes_eventSection h, notes_contractSection h, notes_callSection h, log]
      simp only [List.append_assoc]

/-- The methods of a contract are those of the functions without a note, in order. -/
theorem forall₂_methods (allowed : List String) :
  List.Forall₂ (fun x w => x.2.HasMethod i.name x.1 w) (i.namedUnnoted allowed)
    ((j.namedFunctions allowed).map fun x => x.2.method j.name x.1)
  := by
  rw [namedUnnoted, ← methodCandidates_eq, ← readable_eq_unnoted, List.forall₂_map_right_iff]
  apply (forall₂_namedFunctions allowed h).imp
  rintro ⟨assigned, f⟩ ⟨assigned', f'⟩ ⟨rfl, checked⟩
  rw [(name_and_members_of_check? h).1]
  exact ⟨rfl, _, Function.parts?_of_checked checked i.name assigned'⟩

end

/-- The notes on bindings are the log of the interface.  The methods of the contract, after the one
that binds it to an address, are those of the functions without a note, in order, so that each
function has either a note or a method. -/
theorem notes_of_bindings? {options : Options} {i : Interface Parameter} {b : Bindings}
    (made : i.bindings? options = .ok b) :
  b.notes = i.log options.allowed
  ∧ ∃ before contract after methods,
      b.Around before contract after ∧ contract.name = i.name
      ∧ contract.methods = factory i.name :: methods
      ∧ List.Forall₂ (fun x w => x.2.HasMethod i.name x.1 w) (i.namedUnnoted options.allowed)
          methods
      ∧ (i.functions.filterMap (Function.note? options.allowed)).length + methods.length
        = i.functions.length
  := by
  obtain ⟨j, checked, rfl⟩ := bindings?_eq_ok_iff.mp made
  have name := (name_and_members_of_check? checked).1
  have methods := forall₂_methods checked options.allowed
  use notes_bindings checked options
  refine ⟨_, _, _, _, j.around_bindings options, name, ?_, methods, ?_⟩
  · rw [← name]
    rfl
  · rw [← methods.length_eq, ← length_noted_add_length_unnoted options.allowed i]
    simp [namedUnnoted, unnotedNames]

/-- A function without inputs. -/
def getter (name : String) (outputs : List Parameter) (mutability : String) : Member Parameter :=
  .function { name := name, inputs := [], outputs := outputs, mutability := mutability }

/-- A contract with notes of every kind. -/
def registrar : Interface Parameter where
  name := "Registrar"
  members :=
    [.event
      { name := "Set"
        inputs :=
          [{ type := "string", name := some "key", indexed := true },
            { type := "uint8", indexed := true }, { type := "bytes" }]
        anonymous := false },
     getter "set" [] "nonpayable",
     getter "pay" [{ type := "bool" }] "payable",
     getter "new" [{ type := "uint256" }] "view",
     .event
      { name := "Set"
        inputs := [{ type := "address[]", indexed := true }]
        anonymous := false },
     getter "set" [] "payable",
     getter "new" [{ type := "uint256" }] "pure"]

/-- What is noted on that contract. -/
def registrarNotes : List Note :=
  [⟨.info, "I003", "Duplicate name \"Set\" renamed to \"Set1\".", "events", "name"⟩,
    ⟨.info, "I002",
      "Indexed parameter \"key\" of type string is decoded as its bytes32 topic hash.",
      "Set", "event"⟩,
    ⟨.info, "I002",
      "Indexed parameter \"param0\" of type address[] is decoded as its bytes32 topic hash.",
      "Set1", "event"⟩,
    ⟨.info, "I001", "Function has no outputs; no contract wrapper method generated.", "set",
      "function"⟩,
    ⟨.warning, "W001",
      "Function is payable; not exposed on the contract wrapper despite having outputs.", "pay",
      "function"⟩,
    ⟨.info, "I001", "Function has no outputs; no contract wrapper method generated.", "set",
      "function"⟩,
    ⟨.info, "I003", "Duplicate name \"new_\" renamed to \"new_1\".", "Registrar", "name"⟩,
    ⟨.info, "I003", "Duplicate name \"Set\" renamed to \"Set1\".", "call functions", "name"⟩]

theorem notes_registrar :
  ∃ b, registrar.bindings? {} = .ok b ∧ b.notes = registrarNotes
    ∧ ∃ contract ∈ b.classes, contract.IsContract
      ∧ contract.methods.map (·.name) = ["bind", "new_", "new_1"]
  := by
  have accepted : registrar.check?.isOk := by
    decide +kernel
  have logged : registrar.log Mutability.readable = registrarNotes := by
    decide +kernel
  obtain ⟨b, made⟩ := exists_bindings?_of_isOk accepted {}
  obtain ⟨notes, before, contract, after, methods, around, -, listed, each, -⟩ :=
    notes_of_bindings? made
  have named : (registrar.namedUnnoted Mutability.readable).map (·.1) = ["new_", "new_1"] := by
    decide +kernel
  have names : methods.map (·.name) = ["new_", "new_1"] := by
    rw [← named]
    apply map_eq_map_of_forall₂ _ each
    intro x w made
    apply made.name
  refine ⟨b, made, notes.trans logged, contract, ?_, around.isContract, ?_⟩
  · rw [around.classes]
    simp
  · rw [listed, List.map_cons, names]
    rfl

end Interface

end ContractBindings
