import ContractBindings.Interface.Member
import ContractBindings.Section.Basic
import ContractBindings.Section.Holder
import ContractBindings.Struct.Property

/-!
# Calls

For each constructor, function or fallback that a transaction may call, a class for the call,
a holder of its inputs, a holder of its outputs, and the structs of the tuples among both.
The classes are named after the capitalized name of the member, and members of one such name
are told apart by a number.

Calls that have not been checked have their classes too, unless one of their parameters cannot be
read or lacks a struct.
-/

namespace ContractBindings

namespace Call

/-- The name of the class of a call. -/
def className (assigned : String) : String :=
  assigned ++ "Call"

/-- The name of the holder of the inputs of a call. -/
def inputsName (assigned : String) : String :=
  className assigned ++ "__Inputs"

/-- The name of the holder of the outputs of a call. -/
def outputsName (assigned : String) : String :=
  className assigned ++ "__Outputs"

/-- The inputs of a call under distinct names. -/
def namedInputs (c : Call Slot) : List Slot :=
  Slot.named Source.callInputs.word [] c.inputs

/-- The outputs of a call under distinct names. -/
def namedOutputs (c : Call Slot) : List Slot :=
  Slot.named Source.callOutputs.word [] c.outputs

/-- The classes of a call under its distinct name, with the getters of its inputs and of its
outputs and the structs of the tuples among both. -/
def classesOf (assigned : String) (inputs outputs : List Method) (structs : List ClassDef) :
    List ClassDef :=
  { name := className assigned
    base := some Provided.call
    methods :=
      [Holder.getter "inputs" (inputsName assigned),
       Holder.getter "outputs" (outputsName assigned)] }
  :: Holder.classDef (inputsName assigned) Source.callReference (className assigned) inputs
  :: Holder.classDef (outputsName assigned) Source.callReference (className assigned) outputs
  :: structs

/-- The classes of a call under its distinct name. -/
def classes (c : Call Slot) (assigned : String) : List ClassDef :=
  classesOf assigned
    (Slot.getters Source.callInputs (inputsName assigned) c.namedInputs)
    (Slot.getters Source.callOutputs (outputsName assigned) c.namedOutputs)
    (Slot.structsAll (inputsName assigned) c.namedInputs
      ++ Slot.structsAll (outputsName assigned) c.namedOutputs)

/-- The classes of a call whose parameters have not been checked. -/
def classes? (assigned : String) (c : Call Parameter) : Except Fault (List ClassDef) := do
  let inputs ← Parameter.properties? Source.callInputs (inputsName assigned) 0
    (Parameter.named Source.callInputs.word [] c.inputs)
  let outputs ← Parameter.properties? Source.callOutputs (outputsName assigned) 0
    (Parameter.named Source.callOutputs.word [] c.outputs)
  return classesOf assigned (inputs.map (·.getter)) (outputs.map (·.getter))
    (inputs.flatMap (·.classes) ++ outputs.flatMap (·.classes))

end Call

namespace Interface

/-- The candidates for the names of calls. -/
def callCandidates {α : Type} (i : Interface α) : List String :=
  i.calls.map fun c => Name.capitalize c.name

/-- The calls with their distinct names. -/
def namedCalls {α : Type} (i : Interface α) : List (String × Call α) :=
  (Name.distinct i.callCandidates).zip i.calls

/-- The section of the calls. -/
def callSection (i : Interface Slot) : Section where
  classes := i.namedCalls.flatMap fun (assigned, c) => c.classes assigned
  notes := (Name.renames i.callCandidates).map fun (name, assigned) =>
    Note.renamed "call functions" name assigned

/-- The classes of the calls, made from declared parameters. -/
def callPass? (i : Interface Parameter) : Except Fault (List ClassDef) := do
  let classes ← i.namedCalls.mapM fun (assigned, c) => c.classes? assigned
  return classes.flatten

end Interface

end ContractBindings
