import ContractBindings.Proofs.Bindings.ContractClass
import ContractBindings.Proofs.Bindings.Kinds
import ContractBindings.Proofs.Section.Variables
import ContractBindings.Proofs.Section.WellFormed

/-!
# Escaped names

No class of bindings declares a reserved word, neither for a field, a method or a getter nor for a
parameter or a local of a method, and no method of the contract has a parameter called like the
local `result` (`Interface.escaped_of_bindings?`).

Declared names are escaped before they are made distinct, so a number may follow an escaped name.
But what is followed by a number or an underscore is never a reserved word, and neither is a name
that is given by position.  All other names that classes declare are fixed words.
-/

namespace ContractBindings

open Name

theorem ClassDef.unreserved_declaredNames_iff (c : ClassDef) :
  Unreserved c.declaredNames
    ↔ Unreserved (c.fields.map (·.name))
      ∧ ∀ m ∈ c.methods, m.name ∉ reserved ∧ Unreserved m.variableNames
  := by
  simp only [Unreserved, declaredNames, List.forall_mem_append, List.forall_mem_flatMap,
    List.forall_mem_cons]

/-- A name that is followed by a number is not reserved. -/
theorem Name.append_toString_notMem_reserved (name : String) (n : Nat) :
  name ++ toString n ∉ reserved
  := by
  intro member
  apply append_toString_ne (isPlain_of_mem_reserved member) name n rfl

/-- Getters of slots with names that are not reserved declare none. -/
theorem Slot.unreserved_getters (source : Source) (stem : String) {slots : List Slot}
    (free : Unreserved (slots.map (·.name))) :
  ∀ m ∈ getters source stem slots, m.name ∉ reserved ∧ Unreserved m.variableNames
  := by
  intro m member
  obtain ⟨position, bound, rfl⟩ := List.mem_mapIdx.mp member
  constructor
  · apply free
    apply List.mem_map_of_mem (List.getElem_mem bound)
  · intro name declared
    rw [eq_elementName_of_mem_getter _ _ _ _ declared]
    decide

/-! ## Functions -/

namespace Function

theorem unreserved_arguments (f : Function Slot) :
  Unreserved (f.arguments.map (·.name))
  := by
  rw [arguments, Slot.map_name_named]
  apply unreserved_siblings

theorem unreserved_results (f : Function Slot) :
  Unreserved (f.results.map (·.name))
  := by
  intro name member
  rw [map_name_results] at member
  obtain ⟨k, -, rfl⟩ := List.mem_map.mp member
  apply append_toString_notMem_reserved

/-- The result class of a function declares no reserved word. -/
theorem unreserved_resultClass (contract assigned : String) (f : Function Slot) :
  Unreserved (resultClass contract assigned f.results).declaredNames
  := by
  rw [ClassDef.unreserved_declaredNames_iff, methods_resultClass, List.forall_mem_cons,
    List.forall_mem_singleton]
  refine ⟨?_, ⟨?_, ?_⟩, ?_, ?_⟩
  · rw [resultClass, map_name_resultFields]
    apply unreserved_results
  · change "constructor" ∉ reserved
    decide
  · rw [variableNames_resultConstructor]
    apply unreserved_results
  · change "toMap" ∉ reserved
    decide
  · intro name declared
    obtain rfl | rfl := eq_of_mem_variableNames_resultMap declared <;> decide

/-- The method of a function declares no reserved word for a variable. -/
theorem unreserved_method (contract assigned : String) (f : Function Slot) :
  Unreserved (f.method contract assigned).variableNames
  := by
  intro name declared
  obtain argument | rfl | rfl := mem_variableNames_methodOf declared
  · apply f.unreserved_arguments name argument
  · decide
  · decide

end Function

namespace Interface

/-- The distinct names of methods are not reserved. -/
theorem unreserved_namedFunctions (allowed : List String) (i : Interface Slot) :
  Unreserved ((i.namedFunctions allowed).map (·.1))
  := by
  intro name member word
  have plain := isPlain_of_mem_reserved word
  rw [map_fst_namedFunctions, mem_distinct_iff plain, methodCandidates, List.mem_map] at member
  obtain ⟨f, -, escaped⟩ := member
  apply ((escape_eq_iff plain [] f.name).mp escaped).2.1 word

/-- The class of the contract declares no reserved word. -/
theorem unreserved_contractClass (allowed : List String) (i : Interface Slot) :
  Unreserved (i.contractClass allowed).declaredNames
  := by
  rw [ClassDef.unreserved_declaredNames_iff, contractClass, contractClassOf, List.forall_mem_cons,
    List.forall_mem_map]
  refine ⟨List.forall_mem_nil _, ⟨?_, ?_⟩, ?_⟩
  · change "bind" ∉ reserved
    decide
  · rw [variableNames_factory]
    decide
  · intro x member
    constructor
    · apply unreserved_namedFunctions allowed i
      apply List.mem_map_of_mem member
    · apply Function.unreserved_method

/-! ## All classes -/

/-- A class of one of the kinds declares no reserved word. -/
theorem Makes.unreserved {allowed : List String} {i : Interface Slot} {c : ClassDef}
    (h : i.Makes allowed c) :
  Unreserved c.declaredNames
  := by
  cases h with
  | entry name base holders known =>
      rw [ClassDef.unreserved_declaredNames_iff, List.forall_mem_map]
      refine ⟨List.forall_mem_nil _, ?_⟩
      intro x member
      have free : Unreserved ["params", "inputs", "outputs"] := by
        decide
      constructor
      · apply free x.1 (known x member)
      · rw [Holder.variableNames_getter]
        apply List.forall_mem_nil
  | @holder reference known name owner stem source slots free =>
      rw [ClassDef.unreserved_declaredNames_iff, Holder.methods_classDef, List.forall_mem_cons,
        Holder.variableNames_referenceConstructor]
      have own : ∀ reference ∈ [Source.eventReference, Source.callReference],
          Unreserved [Source.fieldOf reference] ∧ Unreserved [reference] := by
        decide
      obtain ⟨field, parameter⟩ := own reference known
      refine ⟨field, ⟨?_, parameter⟩, ?_⟩
      · change "constructor" ∉ reserved
        decide
      · apply Slot.unreserved_getters _ _ free
  | struct stem field free =>
      rw [ClassDef.unreserved_declaredNames_iff]
      refine ⟨List.forall_mem_nil _, ?_⟩
      apply Slot.unreserved_getters _ _ free
  | result member => apply Function.unreserved_resultClass
  | contract => apply unreserved_contractClass

/-- No method of the contract has a parameter called like the local. -/
theorem localName_notMem_contractClass (allowed : List String) (i : Interface Slot) :
  ∀ m ∈ (i.contractClass allowed).methods, Function.localName ∉ m.parameters.map (·.name)
  := by
  rw [contractClass, contractClassOf, List.forall_mem_cons, List.forall_mem_map]
  constructor
  · change Function.localName ∉ ["address"]
    decide
  · intro x _
    have parameters : (x.2.method i.name x.1).parameters.map (·.name)
        = x.2.arguments.map (·.name) := by
      simp [Function.method, Function.methodOf]
    rw [parameters]
    apply Function.localName_notMem_arguments

/-- No class of bindings declares a reserved word, and no method of the contract has a parameter
called `result`. -/
theorem escaped_of_bindings? {options : Options} {i : Interface Parameter} {b : Bindings}
    (made : i.bindings? options = .ok b) :
  (∀ c ∈ b.classes, ∀ name ∈ c.declaredNames, name ∉ reserved)
    ∧ ∃ before contract after, b.Around before contract after ∧ contract.name = i.name
      ∧ ∀ m ∈ contract.methods, "result" ∉ m.parameters.map (·.name)
  := by
  obtain ⟨j, checked, rfl⟩ := bindings?_eq_ok_iff.mp made
  constructor
  · intro c member
    apply (makes_of_mem_bindings checked options c member).unreserved
  · refine ⟨_, _, _, j.around_bindings options, (name_and_members_of_check? checked).1, ?_⟩
    apply localName_notMem_contractClass

/-- An event and functions with names that are reserved, that escaping makes of reserved ones, that
repeat or that are absent, and with an input called like the local. -/
def keywords : Interface Parameter where
  name := "Keywords"
  members :=
    [.event
      { name := "Sent"
        inputs :=
          [{ type := "tuple", name := some "new", components := some
              [{ type := "bool", name := some "if_" }, { type := "bool", name := some "if" },
                { type := "bool" }] },
            { type := "bool", name := some "new" }, { type := "bool", name := some "new_" }]
        anonymous := false },
     .function
      { name := "delete"
        inputs :=
          [{ type := "uint8[][]", name := some "result" },
            { type := "bool", name := some "result" }, { type := "bool" },
            { type := "bool", name := some "result_" }]
        outputs := [{ type := "bool", name := some "class" }, { type := "bool" }]
        mutability := "view" },
     .function
      { name := "delete_"
        inputs := []
        outputs := [{ type := "bool" }]
        mutability := "view" }]

/-- The names that its classes declare. -/
def keywordsDeclared : List (String × List String) :=
  [("Sent", ["params"]),
    ("Sent__Params", ["_event", "constructor", "event", "new_", "new_1", "new_2"]),
    ("SentNew_Struct", ["if_", "if_1", "value2"]),
    ("Keywords__delete_Result",
      ["value0", "value1", "constructor", "value0", "value1", "toMap", "map"]),
    ("Keywords",
      ["bind", "address", "delete_", "result_", "result_1", "param2", "result_2", "result", "value",
        "delete_1", "result"])]

theorem escaped_keywords :
  ∃ b, keywords.bindings? {} = .ok b
    ∧ b.classes.map (fun c => (c.name, c.declaredNames)) = keywordsDeclared
    ∧ (∀ c ∈ b.classes, ∀ name ∈ c.declaredNames, name ∉ reserved)
    ∧ ∃ before contract after, b.Around before contract after ∧ contract.name = "Keywords"
      ∧ ∀ m ∈ contract.methods, "result" ∉ m.parameters.map (·.name)
  := by
  have names : (keywords.bindings? {}).map
      (fun b => b.classes.map fun c => (c.name, c.declaredNames))
      = .ok keywordsDeclared := by
    decide +kernel
  obtain ⟨b, made, names⟩ := exists_bindings_of_map names
  use b, made, names
  apply escaped_of_bindings? made

end Interface

end ContractBindings
