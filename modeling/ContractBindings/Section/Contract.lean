import ContractBindings.Interface.Member
import ContractBindings.Section.Basic
import ContractBindings.Struct.Property

/-!
# The contract

The class of the contract binds it to an address and has a method for each function that can
be read: one that has outputs and whose mutability is among those allowed.  The method
encodes its arguments, calls the function by its name on the chain, and decodes what is
returned.  A single output is returned as it is, several as an object of a class made for the
function, which has a field for each of them.

The classes of a function are this result class, if it has one, followed by the structs of
the outputs and those of the inputs.  The class of the contract comes after the classes of
all its functions.

Functions that have not been checked have their methods and classes too, unless one of their
inputs or outputs cannot be converted or lacks a struct.
-/

namespace ContractBindings

namespace Function

/-- The local that holds what a call returns. -/
def localName : String := "result"

/-- The type of the map of all fields of a result. -/
def mapType : String :=
  Provided.map ++ "<string," ++ Provided.value ++ ">"

/-- Whether a function can be read under the mutabilities allowed. -/
def isReadable (allowed : List String) {α : Type} (f : Function α) : Bool :=
  !f.outputs.isEmpty && decide (f.mutability ∈ allowed)

/-- The note on a function that cannot be read. -/
def notes (allowed : List String) {α : Type} (f : Function α) : List Note :=
  if f.outputs.isEmpty then [Note.skipped f.name]
  else if f.mutability ∈ allowed then []
  else [Note.excluded f.name f.mutability]

/-- What the tuples among the inputs of a function are named after. -/
def inputStem (contract assigned : String) : String :=
  contract ++ "__" ++ assigned ++ "Input__"

/-- What the tuples among the outputs of a function are named after. -/
def outputStem (contract assigned : String) : String :=
  contract ++ "__" ++ assigned ++ "Result__"

/-- The name of the result class of a function. -/
def resultName (contract assigned : String) : String :=
  contract ++ "__" ++ assigned ++ "Result"

/-- The inputs of a function under distinct names, none of them that of the local. -/
def arguments (f : Function Slot) : List Slot :=
  Slot.named "param" [localName] f.inputs

/-- The outputs of a function, each named by its position. -/
def results (f : Function Slot) : List Slot :=
  f.outputs.mapIdx fun position s => { s with name := "value" ++ toString position }

/-- The fields of a result class, which are also the parameters of its constructor. -/
def resultFields (stem : String) (results : List Slot) : List Variable :=
  results.map fun s => ⟨s.name, s.codeType stem⟩

/-- The class that holds several outputs of a function. -/
def resultClass (contract assigned : String) (results : List Slot) : ClassDef where
  name := resultName contract assigned
  fields := resultFields (outputStem contract assigned) results
  methods :=
    [{ name := "constructor"
       parameters := resultFields (outputStem contract assigned) results
       body := results.map fun s => .assign (.member .self s.name) (.name s.name)
       kind := .constructor },
     { name := "toMap"
       type := some mapType
       body :=
        .declare "map" (.new mapType [])
          :: results.map (fun s =>
              .effect (.call (.name "map") "set"
                [.literal (.text s.name),
                  s.encode (outputStem contract assigned) (.member .self s.name)] []))
          ++ [.give (.name "map")] }]

/-- The outputs of a function, decoded from what a call returns. -/
def decodedResults (stem : String) (results : List Slot) : List Expr :=
  results.mapIdx fun position s =>
    s.decode stem (.index (.name localName) (.literal (.number position)))

/-- What the method of a function returns, with its type. -/
def returned (contract assigned : String) (results : List Slot) : Expr × String :=
  match results, decodedResults (outputStem contract assigned) results with
  | [s], [decoded] => (decoded, s.codeType (outputStem contract assigned))
  | _, decoded => (.new (resultName contract assigned) decoded, resultName contract assigned)

/-- Outputs of any number but one are returned as an object of their class. -/
theorem returned_of_length_ne_one {results : List Slot} (h : results.length ≠ 1)
    (contract assigned : String) :
  returned contract assigned results
    = (.new (resultName contract assigned)
          (decodedResults (outputStem contract assigned) results),
        resultName contract assigned)
  := by
  match results with
  | [] => rfl
  | [_] => cases h rfl
  | _ :: _ :: _ => rfl

/-- The method under its distinct name that calls a function by its name on the chain. -/
def methodOf (contract assigned name : String) (arguments results : List Slot) : Method where
  name := assigned
  parameters := arguments.map fun s => ⟨s.name, s.codeType (inputStem contract assigned)⟩
  type := some (returned contract assigned results).2
  body :=
    [.declare localName
      (.superCall "call"
        [.literal (.text name),
          .list (arguments.map fun s =>
            s.encode (inputStem contract assigned) (.name s.name))]),
     .give (returned contract assigned results).1]

/-- The classes that such a method needs. -/
def classesOf (contract assigned : String) (arguments results : List Slot) : List ClassDef :=
  (if results.length = 1 then [] else [resultClass contract assigned results])
    ++ Slot.structsAll (outputStem contract assigned) results
    ++ Slot.structsAll (inputStem contract assigned) arguments

/-- The method of a function under its distinct name. -/
def method (contract assigned : String) (f : Function Slot) : Method :=
  methodOf contract assigned f.name f.arguments f.results

/-- The classes that the method of a function needs. -/
def classes (contract assigned : String) (f : Function Slot) : List ClassDef :=
  classesOf contract assigned f.arguments f.results

/-- What holds of the class of the results, and of all structs of results and arguments, holds of
all classes of a function. -/
theorem forall_mem_classes {P : ClassDef → Prop} {contract assigned : String} {f : Function Slot}
    (own : P (resultClass contract assigned f.results))
    (results : ∀ c ∈ Slot.structsAll (outputStem contract assigned) f.results, P c)
    (arguments : ∀ c ∈ Slot.structsAll (inputStem contract assigned) f.arguments, P c) :
  ∀ c ∈ f.classes contract assigned, P c
  := by
  intro c member
  rw [classes, classesOf, List.mem_append, List.mem_append] at member
  obtain (made | struct) | struct := member
  · split at made
    · cases made
    · obtain rfl := List.mem_singleton.mp made
      apply own
  · apply results c struct
  · apply arguments c struct

/-- The names of the values that a function returns. -/
def valueNames {α : Type} (f : Function α) : List String :=
  f.outputs.mapIdx fun position _ => "value" ++ toString position

/-- The method of a function whose parameters have not been checked, with the classes that it
needs.  The structs of all outputs are made before an output is converted. -/
def parts? (contract assigned : String) (f : Function Parameter) :
    Except Fault (Method × List ClassDef) := do
  let arguments ← Parameter.slots? (inputStem contract assigned)
    (Name.siblings "param" [localName] (f.inputs.map Parameter.label)) f.inputs
  let structs ← Parameter.tupleStructsAll? (outputStem contract assigned) f.valueNames f.outputs
  let results ← Parameter.slots? (outputStem contract assigned) f.valueNames f.outputs
  return (methodOf contract assigned f.name arguments results,
    (if results.length = 1 then [] else [resultClass contract assigned results])
      ++ structs ++ Slot.structsAll (inputStem contract assigned) arguments)

end Function

namespace Interface

/-- The functions that can be read under the mutabilities allowed. -/
def readable {α : Type} (allowed : List String) (i : Interface α) : List (Function α) :=
  i.functions.filter (Function.isReadable allowed)

/-- The candidates for the names of their methods. -/
def methodCandidates {α : Type} (allowed : List String) (i : Interface α) : List String :=
  (i.readable allowed).map fun f => Name.escape [] f.name

/-- The functions that can be read, with the names of their methods. -/
def namedFunctions {α : Type} (allowed : List String) (i : Interface α) :
    List (String × Function α) :=
  (Name.distinct (i.methodCandidates allowed)).zip (i.readable allowed)

/-- The method that binds a contract to an address. -/
def factory (contract : String) : Method where
  name := "bind"
  parameters := [⟨"address", Provided.address⟩]
  type := some contract
  body := [.give (.new contract [.literal (.text contract), .name "address"])]
  kind := .static

/-- The class of a contract with the methods of its functions. -/
def contractClassOf (contract : String) (methods : List Method) : ClassDef where
  name := contract
  base := some Provided.contract
  methods := factory contract :: methods

/-- The class of the contract. -/
def contractClass (allowed : List String) (i : Interface Slot) : ClassDef :=
  contractClassOf i.name
    ((i.namedFunctions allowed).map fun (assigned, f) => f.method i.name assigned)

/-- The section of the contract. -/
def contractSection (allowed : List String) (i : Interface Slot) : Section where
  classes :=
    (i.namedFunctions allowed).flatMap (fun (assigned, f) => f.classes i.name assigned)
      ++ [i.contractClass allowed]
  notes :=
    i.functions.flatMap (Function.notes allowed)
      ++ (Name.renames (i.methodCandidates allowed)).map fun (name, assigned) =>
        Note.renamed i.name name assigned

/-- The classes of the contract, made from declared parameters. -/
def contractPass? (allowed : List String) (i : Interface Parameter) :
    Except Fault (List ClassDef) := do
  let parts ← (i.namedFunctions allowed).mapM fun (assigned, f) => f.parts? i.name assigned
  return parts.flatMap (·.2) ++ [contractClassOf i.name (parts.map (·.1))]

end Interface

end ContractBindings
