import ContractBindings.Proofs.Bindings.ClassNames
import ContractBindings.Proofs.Interface.Checked

/-!
# Names that a module can declare

A module of bindings cannot declare a class under a name that it imports, nor under a reserved
word.  The names of events and of the contract are taken as they are declared, and nothing keeps
them apart from these.  Derived names have endings that none of the words has, but for one: the
class of a call that is named `Ethereum` is called like the provided class of calls.

`Interface.available_classNames_iff` says that these are the only cases: all classes of bindings
have names that the module can declare exactly when the contract and the events have, and no call
is named `Ethereum` when capitalized.
-/

namespace ContractBindings

open Text

/-- The names that a module of bindings cannot declare: those that it imports and the reserved
words. -/
def Bindings.unavailable (b : Bindings) : List String :=
  b.imports.flatMap (·.names) ++ Name.reserved

/-- The name under which a call has the provided class of calls for its own. -/
def Call.providedRoot : String := "Ethereum"

theorem Call.className_providedRoot :
  className providedRoot = Provided.call
  := by
  decide

namespace Interface

/-- The endings of derived names. -/
def endings : List String :=
  ["__Params", "Result", "Call", "__Inputs", "__Outputs", Struct.ending]

theorem map_fst_derivations (allowed : List String) (i : Interface Slot) :
  (i.derivations allowed).map (·.1) = endings
  := by
  rfl

theorem unavailable_bindings (options : Options) (i : Interface Slot) :
  (i.bindings options).unavailable = Provided.names ++ Name.reserved
  := by
  simp [Bindings.unavailable, bindings, Options.imports]

/-- Of the words that cannot be declared, only the provided class of calls has the ending of a
derived name. -/
theorem eq_of_suffix_unavailable :
  ∀ word ∈ Provided.names ++ Name.reserved, ∀ ending ∈ endings,
    ending.toList <:+ word.toList → ending = "Call" ∧ word = Provided.call
  := by
  decide +kernel

theorem isPlain_unavailable :
  ∀ word ∈ Provided.names ++ Name.reserved, Name.isPlain word
  := by
  decide +kernel

/-- The derived names can be declared unless a call has the provided class of calls for its
own. -/
theorem available_derivedNames_iff (allowed : List String) (i : Interface Slot) :
  (∀ name ∈ i.derivedNames allowed, name ∉ Provided.names ++ Name.reserved)
    ↔ Call.providedRoot ∉ i.callRoots
  := by
  constructor
  · intro available root
    apply available (Call.className Call.providedRoot)
    · apply List.mem_flatMap.mpr
      use ("Call", i.callRoots)
      constructor
      · simp [derivations]
      · apply List.mem_map_of_mem root
    · rw [Call.className_providedRoot]
      decide
  · intro absent name derived unavailable
    obtain ⟨⟨ending, stems⟩, group, inside⟩ := List.mem_flatMap.mp derived
    obtain ⟨stem, member, rfl⟩ := List.mem_map.mp inside
    have known : ending ∈ endings := by
      rw [← i.map_fst_derivations allowed]
      apply List.mem_map_of_mem group
    have suffix : ending.toList <:+ (stem ++ ending).toList := by
      rw [String.toList_append]
      apply List.suffix_append
    obtain ⟨rfl, same⟩ := eq_of_suffix_unavailable _ unavailable _ known suffix
    rw [← Call.className_providedRoot] at same
    obtain rfl := (String.append_left_inj "Call").mp same
    -- The stems that stand before this ending are the names of the calls.
    have stems_eq : stems = i.callRoots := by
      simpa [derivations, Struct.ending] using group
    rw [stems_eq] at member
    apply absent member

/-- The names of events can be declared if and only if the declared ones can. -/
theorem available_eventNames_iff (i : Interface Slot) :
  (∀ name ∈ i.eventNames, name ∉ Provided.names ++ Name.reserved)
    ↔ ∀ name ∈ i.events.map (·.name), name ∉ Provided.names ++ Name.reserved
  := by
  have kept : ∀ word ∈ Provided.names ++ Name.reserved,
      word ∈ i.eventNames ↔ word ∈ i.events.map (·.name) := by
    intro word unavailable
    rw [eventNames_eq, Name.mem_distinct_iff (isPlain_unavailable word unavailable)]
  constructor
  · intro available name declared unavailable
    apply available name ((kept name unavailable).mpr declared) unavailable
  · intro available name assigned unavailable
    apply available name ((kept name unavailable).mp assigned) unavailable

/-- The names of the classes of a checked interface. -/
theorem available_classNames_of_slots (options : Options) (i : Interface Slot) :
  (∀ name ∈ (i.bindings options).classNames, name ∉ Provided.names ++ Name.reserved)
    ↔ i.name ∉ Provided.names ++ Name.reserved
      ∧ (∀ name ∈ i.events.map (·.name), name ∉ Provided.names ++ Name.reserved)
      ∧ Call.providedRoot ∉ i.callCandidates
  := by
  have plain : Name.isPlain Call.providedRoot := by
    decide
  simp only [(i.perm_classNames options).mem_iff]
  rw [List.forall_mem_append, givenNames, List.forall_mem_append, List.forall_mem_singleton,
    available_eventNames_iff, available_derivedNames_iff, callRoots_eq,
    Name.mem_distinct_iff plain]
  constructor
  · rintro ⟨⟨events, contract⟩, calls⟩
    exact ⟨contract, events, calls⟩
  · rintro ⟨contract, events, calls⟩
    exact ⟨⟨events, contract⟩, calls⟩

/-- Bindings of all interfaces have the same names that their module cannot declare. -/
theorem unavailable_of_bindings? {options : Options} {i : Interface Parameter} {b : Bindings}
    (made : i.bindings? options = .ok b) :
  b.unavailable = Provided.names ++ Name.reserved
  := by
  obtain ⟨j, -, rfl⟩ := bindings?_eq_ok_iff.mp made
  apply unavailable_bindings

/-- All classes of bindings have names that their module can declare if and only if the contract
and the events have and no call is named `Ethereum` when capitalized. -/
theorem available_classNames_iff {options : Options} {i : Interface Parameter} {b : Bindings}
    (made : i.bindings? options = .ok b) :
  (∀ name ∈ b.classNames, name ∉ b.unavailable)
    ↔ i.name ∉ b.unavailable
      ∧ (∀ e ∈ i.events, e.name ∉ b.unavailable)
      ∧ ∀ c ∈ i.calls, Name.capitalize c.name ≠ Call.providedRoot
  := by
  rw [unavailable_of_bindings? made]
  obtain ⟨j, checked, rfl⟩ := bindings?_eq_ok_iff.mp made
  have events : j.events.map (·.name) = i.events.map (·.name) := by
    apply map_eq_map_of_forall₂ _ (forall₂_events checked)
    intro e e' h
    apply h.name
  have calls : j.callCandidates = i.callCandidates := by
    apply map_eq_map_of_forall₂ _ (forall₂_calls checked)
    intro c c' h
    rw [h.name]
  rw [available_classNames_of_slots, events, calls, (name_and_members_of_check? checked).1,
    List.forall_mem_map]
  simp [callCandidates]

/-- An event whose name goes on after that of a provided class, and a function named by a
reserved word, which can be read and called. -/
def school : Interface Parameter where
  name := "School"
  members :=
    [.event { name := "EntityAdded", inputs := [{ type := "address" }], anonymous := false },
     .function
      { name := "class"
        inputs := []
        outputs := [{ type := "address" }, { type := "uint256" }]
        mutability := "nonpayable" }]

theorem available_classNames_school :
  ∃ b, school.bindings? {} = .ok b
    ∧ b.classNames = ["EntityAdded", "EntityAdded__Params", "School__class_Result", "School",
        "ClassCall", "ClassCall__Inputs", "ClassCall__Outputs"]
    ∧ ∀ name ∈ b.classNames, name ∉ b.unavailable
  := by
  have names : (school.bindings? {}).map Bindings.classNames
      = .ok ["EntityAdded", "EntityAdded__Params", "School__class_Result", "School",
        "ClassCall", "ClassCall__Inputs", "ClassCall__Outputs"] := by
    decide +kernel
  obtain ⟨b, made, names⟩ := exists_bindings_of_classNames names
  use b, made, names
  apply (available_classNames_iff made).mpr
  rw [unavailable_of_bindings? made]
  decide +kernel

/-- An event named by a reserved word, and a call whose class is named like its base. -/
def bridge : Interface Parameter where
  name := "Bridge"
  members :=
    [.event { name := "class", inputs := [], anonymous := false },
     .function { name := "ethereum", inputs := [], outputs := [], mutability := "payable" }]

/-- A class can be called by a reserved word, and a class can be called like the provided class
that it extends. -/
theorem not_available_classNames_bridge :
  ∃ b, bridge.bindings? {} = .ok b
    ∧ (∃ c ∈ b.classes, c.name ∈ Name.reserved)
    ∧ (∃ c ∈ b.classes, c.base = some c.name)
    ∧ ¬ ∀ name ∈ b.classNames, name ∉ b.unavailable
  := by
  have computed : (bridge.bindings? {}).map (fun b =>
      (b.classes.any (fun c => decide (c.name ∈ Name.reserved)),
        b.classes.any (fun c => decide (c.base = some c.name)))) = .ok (true, true) := by
    decide +kernel
  obtain ⟨b, made, found⟩ := exists_bindings_of_map computed
  simp only [Prod.mk.injEq, List.any_eq_true, decide_eq_true_eq] at found
  obtain ⟨⟨c, among, reserved⟩, extending⟩ := found
  use b, made, ⟨c, among, reserved⟩, extending
  intro available
  apply available c.name (List.mem_map_of_mem among)
  apply List.mem_append_right _ reserved

end Interface

end ContractBindings
