import ContractBindings.Proofs.Bindings.ContractClass
import ContractBindings.Proofs.Bindings.Kinds
import ContractBindings.Proofs.Section.Variables
import ContractBindings.Proofs.Section.Unchecked

/-!
# Variables that are called like classes

Within a method a variable hides a class of its name.  Bodies use few classes: the method that binds
the contract uses the class of the contract, the method of a function the provided class of values
and the result class of the function, and a getter of an event or a call the holder that it makes.
The parameters of the method of a function are called like its inputs, and nothing keeps them apart
from classes, as they are kept apart from the local `result`.

`Interface.unshadowed_bindings_iff` says when no method of any class has a variable that is called
like a class that its body uses: exactly when the contract is not called `address`, no input of a
function that can be read is declared under the name of the class of values, and none of a function
with a result class under the name of this class.
-/

namespace ContractBindings

open Name

/-- The variables that are called like classes which the bodies of their methods use. -/
def Bindings.shadowing (b : Bindings) : List String :=
  b.classes.flatMap fun c => c.methods.flatMap fun m => m.variableNames.filter (· ∈ m.usedClasses)

/-- A method whose body uses no class has no variable called like one. -/
theorem Method.unshadowed_of_usedClasses {m : Method} (h : m.usedClasses = []) :
  m.Unshadowed
  := by
  intro name _
  rw [h]
  apply List.not_mem_nil

/-- A getter of a slot uses no class. -/
theorem Slot.unshadowed_getters (source : Source) (stem : String) (slots : List Slot) :
  ∀ m ∈ getters source stem slots, m.Unshadowed
  := by
  intro m member
  obtain ⟨position, bound, rfl⟩ := List.mem_mapIdx.mp member
  apply Method.unshadowed_of_usedClasses
  apply usedClasses_getter

/-- A text that ends in a plain word is plain. -/
theorem Name.isPlain_append {ending : String} (h : isPlain ending) (stem : String) :
  isPlain (stem ++ ending)
  := by
  obtain ⟨c, last, letter⟩ := (Option.any_eq_true _ _).mp h
  rw [isPlain, String.toList_append, List.getLast?_append, last]
  apply letter

/-! ## Functions -/

namespace Function

variable (contract assigned : String)

theorem suffix_resultName :
  "Result".toList <:+ (resultName contract assigned).toList
  := by
  rw [resultName, String.toList_append]
  apply List.suffix_append

theorem isPlain_resultName :
  isPlain (resultName contract assigned)
  := by
  apply Name.isPlain_append
  decide

/-- The name of a result class is not reserved. -/
theorem resultName_notMem_reserved :
  resultName contract assigned ∉ reserved
  := by
  intro word
  have known : "Result" ∈ Interface.endings := by
    decide
  have other := Interface.eq_of_suffix_unavailable _ (List.mem_append_right _ word) _ known
    (suffix_resultName contract assigned)
  revert other
  simp

/-- The name of a result class is none of the locals. -/
theorem resultName_notMem_locals :
  resultName contract assigned ∉ [localName, Shape.elementName]
  := by
  have unlike : ∀ word ∈ [localName, Shape.elementName], ¬ "Result".toList <:+ word.toList := by
    decide
  intro word
  apply unlike _ word (suffix_resultName contract assigned)

/-- The methods of a result class have no variable called like a class that they use. -/
theorem unshadowed_resultClass (results : List Slot) :
  ∀ m ∈ (resultClass contract assigned results).methods, m.Unshadowed
  := by
  rw [methods_resultClass, List.forall_mem_cons, List.forall_mem_singleton]
  constructor
  · apply Method.unshadowed_of_usedClasses
    apply usedClasses_resultConstructor
  · have apart : ∀ name ∈ ["map", Shape.elementName], name ∉ [mapType, Provided.value] := by
      decide
    intro name declared used
    apply apart name
    · simpa using eq_of_mem_variableNames_resultMap declared
    · simpa using eq_of_mem_usedClasses_resultMap used

/-- The method of a function has no variable called like a class that it uses if and only if no
argument is called like the class of values, nor like the result class where there is one. -/
theorem unshadowed_methodOf_iff (name : String) (arguments results : List Slot) :
  (methodOf contract assigned name arguments results).Unshadowed
    ↔ Provided.value ∉ arguments.map (·.name)
      ∧ (results.length ≠ 1 → resultName contract assigned ∉ arguments.map (·.name))
  := by
  have declared {x : String} (member : x ∈ arguments.map (·.name)) :
      x ∈ (methodOf contract assigned name arguments results).variableNames := by
    rw [Method.variableNames, List.append_assoc]
    apply List.mem_append_left
    simpa [methodOf] using member
  constructor
  · intro unshadowed
    constructor
    · intro member
      apply unshadowed _ (declared member)
      apply (mem_usedClasses_methodOf_iff _).mpr
      left
      use rfl
      rintro rfl
      cases member
    · intro several member
      apply unshadowed _ (declared member)
      apply (mem_usedClasses_methodOf_iff _).mpr
      right
      use rfl
  · rintro ⟨value, result⟩ x known used
    -- The local and the one for an element are called like no class that the method can use.
    obtain ⟨rfl, -⟩ | ⟨rfl, several⟩ := (mem_usedClasses_methodOf_iff x).mp used
    · obtain argument | same | same := mem_variableNames_methodOf known
      · apply value argument
      all_goals
        revert same
        decide
    · obtain argument | same := mem_variableNames_methodOf known
      · apply result several argument
      · apply resultName_notMem_locals contract assigned
        simpa using same

namespace Checked

variable {f : Function Parameter} {f' : Function Slot} (h : Checked f f')

include h

/-- A plain word is the name of no argument if and only if no input is declared by it, unless it is
reserved or that of the local. -/
theorem notMem_map_name_arguments_iff {word : String} (plain : isPlain word)
    (free : word ∉ reserved ∧ word ∉ [localName]) :
  word ∉ f'.arguments.map (·.name) ↔ ∀ p ∈ f.inputs, p.label ≠ word
  := by
  rw [arguments, Slot.map_name_named, h.inputs.map_name, mem_siblings_iff plain, and_iff_left free,
    List.mem_map]
  simp only [not_exists, not_and, ne_eq]

/-- The method of a function has no variable called like a class that it uses if and only if no
input is declared under the name of the class of values, nor under that of the result class where
there is one. -/
theorem unshadowed_method_iff :
  (f'.method contract assigned).Unshadowed
    ↔ (∀ p ∈ f.inputs, p.label ≠ Provided.value)
      ∧ (f.outputs.length ≠ 1 → ∀ p ∈ f.inputs, p.label ≠ resultName contract assigned)
  := by
  have apart : resultName contract assigned ∉ [localName] := by
    intro same
    apply resultName_notMem_locals contract assigned
    apply List.mem_append_left [Shape.elementName] same
  rw [method, unshadowed_methodOf_iff, h.length_results,
    h.notMem_map_name_arguments_iff (by decide) (by decide),
    h.notMem_map_name_arguments_iff (isPlain_resultName contract assigned)
      ⟨resultName_notMem_reserved contract assigned, apart⟩]

end Checked

end Function

namespace Interface

/-- What keeps variables apart from classes: the contract is not called like the parameter of the
method that binds it, and no input of a function is declared under the name of a class that the
method of the function uses. -/
structure VariablesApart (allowed : List String) (i : Interface Parameter) : Prop where
  contract : i.name ≠ "address"
  values : ∀ x ∈ i.namedFunctions allowed, ∀ p ∈ x.2.inputs, p.label ≠ Provided.value
  results : ∀ x ∈ i.namedFunctions allowed, x.2.outputs.length ≠ 1 →
    ∀ p ∈ x.2.inputs, p.label ≠ Function.resultName i.name x.1

/-- The method that binds a contract has no variable called like its class if and only if the
contract is not called like the variable. -/
theorem unshadowed_factory_iff (contract : String) :
  (factory contract).Unshadowed ↔ contract ≠ "address"
  := by
  rw [Method.Unshadowed, variableNames_factory, usedClasses_factory, List.forall_mem_singleton,
    List.mem_singleton, eq_comm]

/-- A class other than that of the contract has no method with a variable called like a class that
it uses. -/
theorem Makes.unshadowed {allowed : List String} {i : Interface Slot} {c : ClassDef}
    (h : i.Makes allowed c) :
  c = i.contractClass allowed ∨ ∀ m ∈ c.methods, m.Unshadowed
  := by
  cases h with
  | entry name base holders known =>
      right
      rw [List.forall_mem_map]
      intro x _ name declared
      rw [Holder.variableNames_getter] at declared
      cases declared
  | holder known name owner stem source free =>
      right
      rw [Holder.methods_classDef, List.forall_mem_cons]
      constructor
      · apply Method.unshadowed_of_usedClasses
        apply Holder.usedClasses_referenceConstructor
      · apply Slot.unshadowed_getters
  | struct stem field free =>
      right
      apply Slot.unshadowed_getters
  | result member =>
      right
      apply Function.unshadowed_resultClass
  | contract =>
      left
      rfl

/-- The methods of the contract have no variable called like a class that they use if and only if
the names of the interface keep them apart. -/
theorem unshadowed_contractClass_iff {i : Interface Parameter} {j : Interface Slot}
    (h : i.check? = .ok j) (allowed : List String) :
  (∀ m ∈ (j.contractClass allowed).methods, m.Unshadowed) ↔ i.VariablesApart allowed
  := by
  have name := (name_and_members_of_check? h).1
  have functions : (∀ y ∈ j.namedFunctions allowed, (y.2.method j.name y.1).Unshadowed)
      ↔ ∀ x ∈ i.namedFunctions allowed, (∀ p ∈ x.2.inputs, p.label ≠ Provided.value)
        ∧ (x.2.outputs.length ≠ 1
          → ∀ p ∈ x.2.inputs, p.label ≠ Function.resultName i.name x.1) := by
    apply forall_iff_of_forall₂ _ (forall₂_namedFunctions allowed h)
    rintro ⟨assigned, f⟩ ⟨assigned', f'⟩ ⟨rfl, checked⟩
    rw [checked.unshadowed_method_iff, name]
  rw [contractClass, contractClassOf, List.forall_mem_cons, List.forall_mem_map,
    unshadowed_factory_iff, functions, name]
  constructor
  · rintro ⟨contract, each⟩
    exact ⟨contract, fun x member => (each x member).1, fun x member => (each x member).2⟩
  · rintro ⟨contract, values, results⟩
    exact ⟨contract, fun x member => ⟨values x member, results x member⟩⟩

/-- No method of bindings has a variable called like a class that its body uses if and only if the
names of the interface keep them apart. -/
theorem unshadowed_bindings_iff {options : Options} {i : Interface Parameter} {b : Bindings}
    (made : i.bindings? options = .ok b) :
  (∀ c ∈ b.classes, ∀ m ∈ c.methods, m.Unshadowed) ↔ i.VariablesApart options.allowed
  := by
  obtain ⟨j, checked, rfl⟩ := bindings?_eq_ok_iff.mp made
  rw [← unshadowed_contractClass_iff checked]
  constructor
  · intro unshadowed
    apply unshadowed
    rw [(j.around_bindings options).classes]
    apply List.mem_append_right _ List.mem_cons_self
  · intro contract c member
    obtain rfl | other := (makes_of_mem_bindings checked options c member).unshadowed
    · apply contract
    · apply other

/-- A contract that is called almost like the parameter of the method that binds it, with functions
whose inputs are called almost like the classes that their methods use, like classes that they do
not use, and like the local for an element. -/
def lender : Interface Parameter where
  name := "addresses"
  members :=
    [.function
      { name := "quote"
        inputs :=
          [{ type := "uint8[][]", name := some "value" }, { type := "bool", name := some "Result" },
            { type := "bool", name := some "EthereumValue_" }]
        outputs := [{ type := "bool" }, { type := "bool[][]" }]
        mutability := "view" },
     .function
      { name := "rate"
        inputs :=
          [{ type := "bool", name := some "addresses" }, { type := "bool", name := some "Address" },
            { type := "bool", name := some "addresses__rateResult" }]
        outputs := [{ type := "bool" }]
        mutability := "view" }]

/-- The variables of the methods of its contract, with the classes that they use. -/
def lenderVariables : List (List String × List String) :=
  [(["address"], ["addresses"]),
    (["value", "Result", "EthereumValue_", "result", "value", "value"],
      ["EthereumValue", "EthereumValue", "EthereumValue", "EthereumValue",
        "addresses__quoteResult"]),
    (["addresses", "Address", "addresses__rateResult", "result"],
      ["EthereumValue", "EthereumValue", "EthereumValue"])]

theorem unshadowed_lender :
  ∃ b, lender.bindings? {} = .ok b
    ∧ (∃ c ∈ b.classes,
        c.methods.map (fun m => (m.variableNames, m.usedClasses)) = lenderVariables)
    ∧ ∀ c ∈ b.classes, ∀ m ∈ c.methods, m.Unshadowed
  := by
  have computed : (lender.bindings? {}).map (fun b => b.classes.any fun c => decide
      (c.methods.map (fun m => (m.variableNames, m.usedClasses)) = lenderVariables))
      = .ok true := by
    decide +kernel
  obtain ⟨b, made, found⟩ := exists_bindings_of_map computed
  simp only [List.any_eq_true, decide_eq_true_eq] at found
  use b, made, found
  apply (unshadowed_bindings_iff made).mpr
  constructor <;> decide +kernel

/-- A contract that is called like the parameter of the method that binds it, with a function whose
inputs are called like the classes that its method uses. -/
def swapper : Interface Parameter where
  name := "address"
  members :=
    [.function
      { name := "quote"
        inputs :=
          [{ type := "bool", name := some "EthereumValue" },
            { type := "bool", name := some "address__quoteResult" }]
        outputs := [{ type := "bool" }, { type := "bool" }]
        mutability := "view" }]

/-- A method can have variables that are called like classes which its body uses. -/
theorem not_unshadowed_swapper :
  ∃ b, swapper.bindings? {} = .ok b
    ∧ b.shadowing = ["address", "EthereumValue", "address__quoteResult"]
    ∧ ¬ ∀ c ∈ b.classes, ∀ m ∈ c.methods, m.Unshadowed
  := by
  have computed : (swapper.bindings? {}).map Bindings.shadowing
      = .ok ["address", "EthereumValue", "address__quoteResult"] := by
    decide +kernel
  obtain ⟨b, made, found⟩ := exists_bindings_of_map computed
  use b, made, found
  intro unshadowed
  have shadowed : "address" ∈ b.shadowing := by
    rw [found]
    decide
  simp only [Bindings.shadowing, List.mem_flatMap, List.mem_filter, decide_eq_true_eq] at shadowed
  obtain ⟨c, among, m, method, declared, used⟩ := shadowed
  apply unshadowed c among m method _ declared used

end Interface

end ContractBindings
