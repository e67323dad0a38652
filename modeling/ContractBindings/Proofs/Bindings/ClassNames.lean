import ContractBindings.Bindings
import ContractBindings.Proofs.Name.Distinct
import ContractBindings.Proofs.Struct.Occurrence
import ContractBindings.Proofs.Text.Ending
import Mathlib.Data.List.Perm.Basic
import Mathlib.Tactic.Common

/-!
# The names of classes

The classes of bindings have given names, which are those of the events and of the contract,
or names that are derived by an ending: `__Params` after an event, `Result` after a function
of the contract, `Call` after a call, `__Inputs` and `__Outputs` after that, and `Struct`
after the spelling of an occurrence of a tuple.

Names of different endings never coincide, and of the stems only the spellings of occurrences
may repeat.  So `Interface.NamesApart` is all that it takes for the names to be pairwise
distinct: the contract is not called like an event, no given name is also a derived one, and
no two occurrences of tuples have one spelling.
-/

namespace ContractBindings

open Text

namespace Function

/-- What the name of the result class of a function is made from. -/
def resultRoot (contract assigned : String) : String :=
  contract ++ "__" ++ assigned

/-- The same for a function with a result class, none for one with a single output. -/
def resultRoot? (contract assigned : String) (f : Function Slot) : Option String :=
  if f.outputs.length = 1 then none else some (resultRoot contract assigned)

/-- The occurrences of tuples in the outputs and the inputs of a function. -/
def occurrences (contract assigned : String) (f : Function Slot) : List Occurrence :=
  Slot.occurrencesAll (outputStem contract assigned) [] f.results
    ++ Slot.occurrencesAll (inputStem contract assigned) [] f.arguments

end Function

/-- The occurrences of tuples in the inputs and the outputs of a call. -/
def Call.occurrences (assigned : String) (c : Call Slot) : List Occurrence :=
  Slot.occurrencesAll (inputsName assigned) [] c.namedInputs
    ++ Slot.occurrencesAll (outputsName assigned) [] c.namedOutputs

namespace Interface

/-- The names of the classes of events. -/
def eventNames (i : Interface Slot) : List String :=
  i.namedEvents.map (·.1)

/-- What the names of calls are made from. -/
def callRoots (i : Interface Slot) : List String :=
  i.namedCalls.map (·.1)

/-- What the names of result classes are made from. -/
def resultRoots (allowed : List String) (i : Interface Slot) : List String :=
  (i.namedFunctions allowed).filterMap fun (assigned, f) => f.resultRoot? i.name assigned

/-- The occurrences of tuples in the parameters of events. -/
def eventOccurrences (i : Interface Slot) : List Occurrence :=
  i.namedEvents.flatMap fun (assigned, e) => Slot.occurrencesAll assigned [] e.recorded

/-- The occurrences of tuples in the functions that can be read. -/
def functionOccurrences (allowed : List String) (i : Interface Slot) : List Occurrence :=
  (i.namedFunctions allowed).flatMap fun (assigned, f) => f.occurrences i.name assigned

/-- The occurrences of tuples in the calls. -/
def callOccurrences (i : Interface Slot) : List Occurrence :=
  i.namedCalls.flatMap fun (assigned, c) => c.occurrences assigned

/-- All occurrences of tuples for which there are structs. -/
def occurrences (allowed : List String) (i : Interface Slot) : List Occurrence :=
  i.eventOccurrences ++ i.functionOccurrences allowed ++ i.callOccurrences

/-- The names that classes have without an ending. -/
def givenNames (i : Interface Slot) : List String :=
  i.eventNames ++ [i.name]

/-- The endings of the other names, each with the stems that it stands after. -/
def derivations (allowed : List String) (i : Interface Slot) : List (String × List String) :=
  [("__Params", i.eventNames),
    ("Result", i.resultRoots allowed),
    ("Call", i.callRoots),
    ("__Inputs", i.callRoots.map Call.className),
    ("__Outputs", i.callRoots.map Call.className),
    (Struct.ending, (i.occurrences allowed).map Occurrence.spelled)]

/-- The names of the classes that have an ending. -/
def derivedNames (allowed : List String) (i : Interface Slot) : List String :=
  (i.derivations allowed).flatMap fun g => withEnding g.1 g.2

/-- What keeps the names of all classes apart. -/
structure NamesApart (allowed : List String) (i : Interface Slot) : Prop where
  contract : i.name ∉ i.eventNames
  given : ∀ name ∈ i.givenNames, name ∉ i.derivedNames allowed
  occurrences : ((i.occurrences allowed).map Occurrence.spelled).Nodup

/-! ## The names section by section -/

theorem eventNames_eq (i : Interface Slot) :
  i.eventNames = Name.distinct (i.events.map (·.name))
  := by
  apply List.map_fst_zip
  simp

theorem map_fst_namedCalls {α : Type} (i : Interface α) :
  i.namedCalls.map (·.1) = Name.distinct i.callCandidates
  := by
  apply List.map_fst_zip
  simp [callCandidates]

theorem callRoots_eq (i : Interface Slot) :
  i.callRoots = Name.distinct i.callCandidates
  := i.map_fst_namedCalls

theorem map_fst_namedFunctions {α : Type} (allowed : List String) (i : Interface α) :
  (i.namedFunctions allowed).map (·.1) = Name.distinct (i.methodCandidates allowed)
  := by
  apply List.map_fst_zip
  simp [methodCandidates]

end Interface

/-- The structs of slots are named by the spelling of the occurrences in them. -/
theorem Slot.map_name_structsAll_root (stem : String) (slots : List Slot) :
  (structsAll stem slots).map (·.name)
    = withEnding Struct.ending ((occurrencesAll stem [] slots).map Occurrence.spelled)
  := by
  rw [withEnding, List.map_map]
  apply map_name_structsAll stem []

theorem Event.map_name_classes (e : Event Slot) (assigned : String) :
  (e.classes assigned).map (·.name)
    = assigned :: (assigned ++ "__Params")
      :: withEnding Struct.ending
        ((Slot.occurrencesAll assigned [] e.recorded).map Occurrence.spelled)
  := by
  rw [← Slot.map_name_structsAll_root]
  rfl

/-- The holders of a call are called after its name. -/
theorem Call.inputsName_eq (assigned : String) :
  inputsName assigned = assigned ++ "Call__Inputs"
  := by
  rw [inputsName, className, String.append_assoc]
  rfl

theorem Call.outputsName_eq (assigned : String) :
  outputsName assigned = assigned ++ "Call__Outputs"
  := by
  rw [outputsName, className, String.append_assoc]
  rfl

theorem Call.map_name_classes (c : Call Slot) (assigned : String) :
  (c.classes assigned).map (·.name)
    = className assigned :: inputsName assigned :: outputsName assigned
      :: withEnding Struct.ending ((c.occurrences assigned).map Occurrence.spelled)
  := by
  rw [occurrences, List.map_append, withEnding, List.map_append, ← withEnding, ← withEnding,
    ← Slot.map_name_structsAll_root, ← Slot.map_name_structsAll_root, ← List.map_append]
  rfl

theorem Function.map_name_classes (contract assigned : String) (f : Function Slot) :
  (f.classes contract assigned).map (·.name)
    = withEnding "Result" (f.resultRoot? contract assigned).toList
      ++ withEnding Struct.ending ((f.occurrences contract assigned).map Occurrence.spelled)
  := by
  have result : (if f.results.length = 1 then []
      else [resultClass contract assigned f.results]).map (·.name)
      = withEnding "Result" (f.resultRoot? contract assigned).toList := by
    simp only [results, List.length_mapIdx, resultRoot?]
    split <;> rfl
  rw [classes, classesOf, List.map_append, List.map_append, result,
    Slot.map_name_structsAll_root, Slot.map_name_structsAll_root, occurrences,
    List.map_append, List.append_assoc]
  simp only [withEnding, List.map_append]

namespace Interface

/-- The names of the first section, in another order. -/
theorem perm_eventSection (i : Interface Slot) :
  (i.eventSection.classes.map (·.name)).Perm
    (i.eventNames ++ (withEnding "__Params" i.eventNames
      ++ withEnding Struct.ending (i.eventOccurrences.map Occurrence.spelled)))
  := by
  simp only [eventSection, List.map_flatMap, Event.map_name_classes]
  apply (List.map_append_flatMap_perm _ _ _).symm.trans
  apply List.Perm.append (by rfl)
  apply (List.map_append_flatMap_perm _ _ _).symm.trans
  simp [withEnding, eventNames, eventOccurrences, List.map_flatMap, Function.comp_def]

/-- The names of the second section, in another order. -/
theorem perm_contractSection (allowed : List String) (i : Interface Slot) :
  ((i.contractSection allowed).classes.map (·.name)).Perm
    (withEnding "Result" (i.resultRoots allowed)
      ++ withEnding Struct.ending ((i.functionOccurrences allowed).map Occurrence.spelled)
      ++ [i.name])
  := by
  simp only [contractSection, List.map_append, List.map_flatMap, Function.map_name_classes]
  apply List.Perm.append _ (by rfl)
  apply (List.flatMap_append_perm _ _ _).symm.trans
  simp [withEnding, resultRoots, functionOccurrences, List.map_flatMap,
    List.filterMap_eq_flatMap_toList]

/-- The names of the third section, in another order. -/
theorem perm_callSection (i : Interface Slot) :
  (i.callSection.classes.map (·.name)).Perm
    (withEnding "Call" i.callRoots
      ++ (withEnding "__Inputs" (i.callRoots.map Call.className)
        ++ (withEnding "__Outputs" (i.callRoots.map Call.className)
          ++ withEnding Struct.ending (i.callOccurrences.map Occurrence.spelled))))
  := by
  simp only [callSection, List.map_flatMap, Call.map_name_classes]
  apply (List.map_append_flatMap_perm _ _ _).symm.trans
  apply List.Perm.append (by simp [withEnding, callRoots, Call.className, Function.comp_def])
  apply (List.map_append_flatMap_perm _ _ _).symm.trans
  apply List.Perm.append (by simp [withEnding, callRoots, Call.inputsName, Function.comp_def])
  apply (List.map_append_flatMap_perm _ _ _).symm.trans
  apply List.Perm.append (by simp [withEnding, callRoots, Call.outputsName, Function.comp_def])
  simp [withEnding, callOccurrences, List.map_flatMap]

/-! ## The names of all classes -/

/-- The names of all classes are the given and the derived ones, in another order. -/
theorem perm_classNames (options : Options) (i : Interface Slot) :
  (i.bindings options).classNames.Perm
    (i.givenNames ++ i.derivedNames options.allowed)
  := by
  have events := i.perm_eventSection.count_eq
  have contract := (i.perm_contractSection options.allowed).count_eq
  have calls := i.perm_callSection.count_eq
  apply List.perm_iff_count.mpr
  intro name
  have e := events name
  have f := contract name
  have c := calls name
  simp only [List.count_append] at e f c
  simp only [Bindings.classNames, bindings, sections, givenNames, derivedNames, derivations,
    occurrences, List.flatMap_cons, List.flatMap_nil, List.map_append, List.count_append,
    withEnding, List.append_nil] at e f c ⊢
  omega

/-- The names of functions that can be read are pairwise distinct. -/
theorem nodup_map_fst_namedFunctions {α : Type} (allowed : List String) (i : Interface α) :
  ((i.namedFunctions allowed).map (·.1)).Nodup
  := by
  rw [map_fst_namedFunctions]
  apply Name.nodup_distinct

/-- The names of calls are pairwise distinct. -/
theorem nodup_map_fst_namedCalls {α : Type} (i : Interface α) :
  (i.namedCalls.map (·.1)).Nodup
  := by
  rw [map_fst_namedCalls]
  apply Name.nodup_distinct

/-- Function names of one contract are not repeated among the roots of result classes. -/
theorem nodup_resultRoots (allowed : List String) (i : Interface Slot) :
  (i.resultRoots allowed).Nodup
  := by
  rw [resultRoots, List.Nodup, List.pairwise_filterMap]
  apply (List.pairwise_map.mp (i.nodup_map_fst_namedFunctions allowed)).imp
  rintro ⟨assigned, f⟩ ⟨assigned', f'⟩ apart root hroot root' hroot' same
  simp only [Function.resultRoot?, Option.ite_none_left_eq_some, Option.some.injEq] at hroot hroot'
  obtain ⟨-, rfl⟩ := hroot
  obtain ⟨-, rfl⟩ := hroot'
  apply apart ((String.append_right_inj _).mp same)

theorem nodup_eventNames (i : Interface Slot) :
  i.eventNames.Nodup
  := by
  rw [eventNames_eq]
  apply Name.nodup_distinct

theorem nodup_callRoots (i : Interface Slot) :
  i.callRoots.Nodup
  := i.nodup_map_fst_namedCalls

theorem nodup_map_className (i : Interface Slot) :
  (i.callRoots.map Call.className).Nodup
  := by
  apply (nodup_withEnding "Call" i.callRoots).mpr i.nodup_callRoots

/-- No two of the endings are alike. -/
theorem pairwise_apart_derivations (allowed : List String) (i : Interface Slot) :
  (i.derivations allowed).Pairwise fun g g' => Apart g.1 g'.1
  := by
  have apart : ((i.derivations allowed).map (·.1)).Pairwise Apart := by
    change List.Pairwise Apart ["__Params", "Result", "Call", "__Inputs", "__Outputs", "Struct"]
    decide
  apply List.pairwise_map.mp apart

/-- The derived names are pairwise distinct if and only if no spelling of an occurrence is
repeated. -/
theorem nodup_derivedNames_iff (allowed : List String) (i : Interface Slot) :
  (i.derivedNames allowed).Nodup ↔ ((i.occurrences allowed).map Occurrence.spelled).Nodup
  := by
  rw [derivedNames, nodup_flatMap_withEnding (i.pairwise_apart_derivations allowed)]
  simp [derivations, nodup_eventNames, nodup_resultRoots, nodup_callRoots,
    nodup_map_className]

/-- The names of the classes of a checked interface. -/
theorem nodup_classNames_of_slots (options : Options) (i : Interface Slot) :
  (i.bindings options).classNames.Nodup ↔ i.NamesApart options.allowed
  := by
  rw [(i.perm_classNames options).nodup_iff, List.nodup_append', givenNames, List.nodup_append',
    nodup_derivedNames_iff]
  constructor
  · rintro ⟨⟨-, -, contract⟩, occurrences, given⟩
    constructor
    · simpa using contract
    · apply given
    · apply occurrences
  · rintro ⟨contract, given, occurrences⟩
    use ⟨i.nodup_eventNames, by simp, by simpa using contract⟩, occurrences
    apply given

/-- The names of the classes of bindings are pairwise distinct if and only if the names of
the interface keep them apart. -/
theorem nodup_classNames_iff {options : Options} {i : Interface Parameter} {b : Bindings}
    (made : i.bindings? options = .ok b) :
  b.classNames.Nodup ↔ ∃ j, i.check? = .ok j ∧ j.NamesApart options.allowed
  := by
  obtain ⟨j, checked, rfl⟩ := bindings?_eq_ok_iff.mp made
  rw [nodup_classNames_of_slots]
  constructor
  · intro apart
    use j
  · rintro ⟨j', checked', apart⟩
    obtain rfl := Except.ok.inj (checked.symm.trans checked')
    apply apart

/-- What is known of the bindings that are made is known of some bindings. -/
theorem exists_bindings_of_map {options : Options} {i : Interface Parameter} {β : Type}
    {f : Bindings → β} {y : β} (h : (i.bindings? options).map f = .ok y) :
  ∃ b, i.bindings? options = .ok b ∧ f b = y
  := by
  cases made : i.bindings? options with
  | error fault =>
      rw [made] at h
      cases h
  | ok b =>
      rw [made] at h
      use b, rfl
      apply Except.ok.inj h

theorem exists_bindings_of_classNames {options : Options} {i : Interface Parameter}
    {names : List String}
    (h : (i.bindings? options).map Bindings.classNames = .ok names) :
  ∃ b, i.bindings? options = .ok b ∧ b.classNames = names
  := exists_bindings_of_map h

/-- An event with a tuple, and a function with two outputs that can be read and called. -/
def registry : Interface Parameter where
  name := "Registry"
  members :=
    [.event
      { name := "Updated"
        inputs :=
          [{ type := "tuple", name := some "info", components := some [{ type := "bool" }] }]
        anonymous := false },
     .function
      { name := "owner"
        inputs := []
        outputs := [{ type := "address" }, { type := "uint256" }]
        mutability := "nonpayable" }]

theorem nodup_classNames_registry :
  ∃ b, registry.bindings? {} = .ok b
    ∧ b.classNames = ["Updated", "Updated__Params", "UpdatedInfoStruct",
        "Registry__ownerResult", "Registry",
        "OwnerCall", "OwnerCall__Inputs", "OwnerCall__Outputs"]
    ∧ (b.classNames.Nodup ↔ ∃ j, registry.check? = .ok j ∧ j.NamesApart Mutability.readable)
  := by
  have names : (registry.bindings? {}).map Bindings.classNames
      = .ok ["Updated", "Updated__Params", "UpdatedInfoStruct",
        "Registry__ownerResult", "Registry",
        "OwnerCall", "OwnerCall__Inputs", "OwnerCall__Outputs"] := by
    decide +kernel
  obtain ⟨b, made, names⟩ := exists_bindings_of_classNames names
  use b, made, names
  apply nodup_classNames_iff made

/-- An event with a tuple `a` around a tuple `b`, and beside it a tuple `aB`. -/
def tupleTwins : Interface Parameter where
  name := "Token"
  members :=
    [.event
      { name := "Swap"
        inputs :=
          [{ type := "tuple", name := some "a",
             components := some
              [{ type := "tuple", name := some "b", components := some [{ type := "bool" }] }] },
           { type := "tuple", name := some "aB", components := some [{ type := "bool" }] }]
        anonymous := false }]

/-- The structs of a tuple inside another and of a tuple beside that one can have one name. -/
theorem not_nodup_classNames_tupleTwins :
  ∃ b, tupleTwins.bindings? {} = .ok b ∧ ¬ b.classNames.Nodup
  := by
  have names : (tupleTwins.bindings? {}).map Bindings.classNames
      = .ok ["Swap", "Swap__Params", "SwapAStruct", "SwapABStruct", "SwapABStruct", "Token"] := by
    decide +kernel
  obtain ⟨b, made, names⟩ := exists_bindings_of_classNames names
  use b, made
  rw [names]
  decide

end Interface

end ContractBindings
