import ContractBindings.Code.Render
import ContractBindings.Interface.Check
import ContractBindings.Log.Report
import ContractBindings.Section.Calls
import ContractBindings.Section.Contract
import ContractBindings.Section.Events

/-!
# Bindings

Bindings are a module of typed classes through which a program reads the events, the calls
and the state of a contract on the Ethereum chain, without decoding values by hand.

The bindings of an interface are the import of the provided names, the classes of the three
sections, events first, then the contract, then the calls, and the notes made on them.
`Interface.bindings?` makes them, provided that the interface passes its check.
`Bindings.module` is the module that they are written as, and `Bindings.text` its text.
-/

namespace ContractBindings

namespace Mutability

/-- The mutabilities of functions that can be read, unless others are chosen.  Older
interfaces state `nonpayable` or `constant` for plain getters. -/
def readable : List String :=
  ["constant", "nonpayable", "pure", "view"]

/-- The mutabilities that are declared to have no effect. -/
def viewOnly : List String :=
  ["pure", "view"]

end Mutability

/-- The choices that bindings are made by. -/
structure Options where
  allowed : List String := Mutability.readable
  module : String := Provided.module
  verbose : Bool := false

/-- All that is made for an interface. -/
structure Bindings where
  imports : List Import
  classes : List ClassDef
  notes : List Note

/-- The names of the classes, in order. -/
def Bindings.classNames (b : Bindings) : List String :=
  b.classes.map (·.name)

/-- The imports of every module of bindings. -/
def Options.imports (options : Options) : List Import :=
  [⟨Provided.names, options.module⟩]

namespace Interface

/-- The sections of the bindings of a checked interface, in order. -/
def sections (options : Options) (i : Interface Slot) : List Section :=
  [i.eventSection, i.contractSection options.allowed, i.callSection]

/-- The bindings of a checked interface. -/
def bindings (options : Options) (i : Interface Slot) : Bindings where
  imports := options.imports
  classes := (i.sections options).flatMap (·.classes)
  notes := (i.sections options).flatMap (·.notes)

/-- The bindings of an interface. -/
def bindings? (options : Options) (i : Interface Parameter) : Except Fault Bindings :=
  i.check?.map (bindings options)

/-- The bindings of an interface are those of the slots that its check gives. -/
theorem bindings?_eq_ok_iff {options : Options} {i : Interface Parameter} {b : Bindings} :
  i.bindings? options = .ok b ↔ ∃ j, i.check? = .ok j ∧ j.bindings options = b
  := by
  rw [bindings?]
  cases i.check? <;> simp [Except.map]

/-- An interface that passes its check has bindings. -/
theorem exists_bindings?_of_isOk {i : Interface Parameter} (h : i.check?.isOk)
    (options : Options) :
  ∃ b, i.bindings? options = .ok b
  := by
  cases checked : i.check? with
  | error fault =>
      rw [checked] at h
      cases h
  | ok j => exact ⟨j.bindings options, bindings?_eq_ok_iff.mpr ⟨j, checked, rfl⟩⟩

end Interface

/-- The module of bindings. -/
def Bindings.module (b : Bindings) : Module where
  imports := b.imports
  classes := b.classes

/-- The text of the module of bindings. -/
def Bindings.text (indent : String) (b : Bindings) : String :=
  b.module.render indent

end ContractBindings
