import ContractBindings.Proofs.Bindings.ClassNames
import ContractBindings.Proofs.Bindings.ContractClass
import ContractBindings.Proofs.Interface.Members
import Mathlib.Data.List.Infix

/-!
# Bindings of longer interfaces

Members that are appended to an interface leave its bindings as they are.  The names of items do
not depend on the items after them, so each section starts with the classes that it had, and the
class of the contract with the methods that it had.

`Interface.exists_extended_bindings` says that an interface has bindings whenever it has with
members appended, and that its classes stand in the longer bindings, in their order: the class of
the contract with further methods at its end, all others as they are.
-/

namespace ContractBindings

/-- A class that goes on with more methods where another one ends. -/
structure ClassDef.Extends (c' c : ClassDef) : Prop where
  name : c'.name = c.name
  exported : c'.exported = c.exported
  base : c'.base = c.base
  fields : c'.fields = c.fields
  methods : c.methods <+: c'.methods

/-- Bindings that hold the classes of others in their order, that of the contract possibly with
more methods. -/
structure Bindings.Extends (b' b : Bindings) : Prop where
  imports : b'.imports = b.imports
  classes : ∃ before contract after before' contract' after',
    b.Around before contract after ∧ b'.Around before' contract' after'
    ∧ before.Sublist before' ∧ contract'.Extends contract ∧ after.Sublist after'

namespace Interface

/-! ## Sections of longer interfaces -/

section

variable {i i' : Interface Slot} (longer : i.members <+: i'.members)

include longer

/-- Events keep their names when members are appended. -/
theorem prefix_namedEvents :
  i.namedEvents <+: i'.namedEvents
  := by
  apply Name.prefix_zip_distinct
  apply longer.filterMap

/-- Calls keep their names when members are appended. -/
theorem prefix_namedCalls :
  i.namedCalls <+: i'.namedCalls
  := by
  apply Name.prefix_zip_distinct
  apply longer.filterMap

/-- Functions that can be read keep the names of their methods when members are appended. -/
theorem prefix_namedFunctions (allowed : List String) :
  i.namedFunctions allowed <+: i'.namedFunctions allowed
  := by
  apply Name.prefix_zip_distinct
  apply List.IsPrefix.filter
  apply longer.filterMap

theorem prefix_eventSection :
  i.eventSection.classes <+: i'.eventSection.classes
  := by
  apply (prefix_namedEvents longer).flatMap

theorem prefix_callSection :
  i.callSection.classes <+: i'.callSection.classes
  := by
  apply (prefix_namedCalls longer).flatMap

variable (name : i.name = i'.name) (allowed : List String)

include name

theorem prefix_functionClasses :
  i.functionClasses allowed <+: i'.functionClasses allowed
  := by
  rw [functionClasses, functionClasses, name]
  apply (prefix_namedFunctions longer allowed).flatMap

/-- The class of the contract goes on with more methods when members are appended. -/
theorem extends_contractClass :
  (i'.contractClass allowed).Extends (i.contractClass allowed)
  := by
  constructor
  · apply name.symm
  · rfl
  · rfl
  · rfl
  · rw [contractClass, contractClass, name]
    apply List.prefix_cons_inj _ |>.mpr
    apply (prefix_namedFunctions longer allowed).map

end

/-- The bindings of a checked interface are extended by those of a longer one. -/
theorem extends_bindings (options : Options) {i i' : Interface Slot} (name : i.name = i'.name)
    (longer : i.members <+: i'.members) :
  (i'.bindings options).Extends (i.bindings options)
  := by
  constructor
  · rfl
  · refine ⟨_, _, _, _, _, _, i.around_bindings options, i'.around_bindings options, ?_, ?_, ?_⟩
    · apply List.Sublist.append
      · apply (prefix_eventSection longer).sublist
      · apply (prefix_functionClasses longer name options.allowed).sublist
    · apply extends_contractClass longer name
    · apply (prefix_callSection longer).sublist

/-- An interface that has bindings with members appended has bindings without them, and its classes
stay as they are: only the class of the contract may have further methods. -/
theorem exists_extended_bindings {options : Options} {i : Interface Parameter}
    {later : List (Member Parameter)} {b' : Bindings}
    (made : (i.extended later).bindings? options = .ok b') :
  ∃ b, i.bindings? options = .ok b ∧ b'.Extends b
  := by
  obtain ⟨j', checked', rfl⟩ := bindings?_eq_ok_iff.mp made
  obtain ⟨j, checked, name, longer⟩ := exists_check?_of_extended checked'
  use j.bindings options, bindings?_eq_ok_iff.mpr ⟨j, checked, rfl⟩
  apply extends_bindings options name longer

/-- A function that can be read and called, with the given inputs. -/
def price (inputs : List Parameter) : Member Parameter :=
  .function
    { name := "price"
      inputs := inputs
      outputs := [{ type := "uint256" }, { type := "string" }]
      mutability := "nonpayable" }

/-- A tuple of one component. -/
def pair : Parameter where
  type := "tuple"
  name := some "pair"
  components := some [{ type := "bool" }]

/-- A contract with an event and a function. -/
def exchange : Interface Parameter where
  name := "Exchange"
  members :=
    [.event { name := "Traded", inputs := [pair], anonymous := false }, price []]

theorem extended_exchange :
  ∃ b b', exchange.bindings? {} = .ok b
    ∧ (exchange.extended [price [pair]]).bindings? {} = .ok b'
    ∧ b.classNames = ["Traded", "Traded__Params", "TradedPairStruct", "Exchange__priceResult",
        "Exchange", "PriceCall", "PriceCall__Inputs", "PriceCall__Outputs"]
    ∧ b'.classNames = ["Traded", "Traded__Params", "TradedPairStruct", "Exchange__priceResult",
        "Exchange__price1Result", "Exchange__price1Input__PairStruct", "Exchange",
        "PriceCall", "PriceCall__Inputs", "PriceCall__Outputs",
        "Price1Call", "Price1Call__Inputs", "Price1Call__Outputs", "Price1Call__InputsPairStruct"]
    ∧ b'.Extends b
  := by
  have names : (exchange.bindings? {}).map Bindings.classNames
      = .ok ["Traded", "Traded__Params", "TradedPairStruct", "Exchange__priceResult",
        "Exchange", "PriceCall", "PriceCall__Inputs", "PriceCall__Outputs"] := by
    decide +kernel
  have names' : ((exchange.extended [price [pair]]).bindings? {}).map Bindings.classNames
      = .ok ["Traded", "Traded__Params", "TradedPairStruct", "Exchange__priceResult",
        "Exchange__price1Result", "Exchange__price1Input__PairStruct", "Exchange",
        "PriceCall", "PriceCall__Inputs", "PriceCall__Outputs", "Price1Call", "Price1Call__Inputs",
        "Price1Call__Outputs", "Price1Call__InputsPairStruct"] := by
    decide +kernel
  obtain ⟨b', made', names'⟩ := exists_bindings_of_classNames names'
  obtain ⟨b, made, kept⟩ := exists_extended_bindings made'
  obtain ⟨_, again, names⟩ := exists_bindings_of_classNames names
  obtain rfl := Except.ok.inj (made.symm.trans again)
  use b, b'

end Interface

end ContractBindings
