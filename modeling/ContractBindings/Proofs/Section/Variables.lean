import ContractBindings.Proofs.Section.Result
import ContractBindings.Proofs.Types.Variables
import ContractBindings.Section.Holder

/-!
# Variables of methods

The variables of each method that is generated, and the classes that it uses.  Apart from the
method of a function, whose parameters are called like the inputs, the names of variables are
fixed words and the positions of outputs.
-/

namespace ContractBindings

open ContractBindings.Expr

/-- Reading a value from a source declares no variable. -/
theorem Source.collect_parameter_valueAt (source : Source) (position : Int) :
  (source.valueAt position).collect parameter? = []
  := by
  cases source <;> rfl

/-- Reading a value from a source uses no class. -/
theorem Source.collect_class_valueAt (source : Source) (position : Int) :
  (source.valueAt position).collect class? = []
  := by
  cases source <;> rfl

namespace Slot

variable (source : Source) (stem : String) (position : Int) (s : Slot)

/-- A getter declares only the local for an element. -/
theorem eq_elementName_of_mem_getter {name : String}
    (h : name ∈ (s.getter source stem position).variableNames) :
  name = Shape.elementName
  := by
  apply Shape.eq_elementName_of_mem_decode _ _ (source.collect_parameter_valueAt position)
  simpa [Method.variableNames, Method.collect, getter, decode, Stmt.declared?, Stmt.collect] using h

/-- A getter uses no class. -/
theorem usedClasses_getter :
  (s.getter source stem position).usedClasses = []
  := by
  have bare := Shape.usedClasses_decode (s.structName? stem) s.shape
    (source.collect_class_valueAt position)
  simpa [Method.usedClasses, Method.collect, getter, decode, Stmt.collect] using bare

end Slot

namespace Holder

/-- A getter that makes a holder declares no variable. -/
theorem variableNames_getter (name holder : String) :
  (getter name holder).variableNames = []
  := by
  rfl

/-- The constructor of a holder. -/
def referenceConstructor (reference owner : String) : Method where
  name := "constructor"
  parameters := [⟨reference, owner⟩]
  body := [.assign (.member .self (Source.fieldOf reference)) (.name reference)]
  kind := .constructor

/-- A holder has this constructor beside its getters. -/
theorem methods_classDef (name reference owner : String) (getters : List Method) :
  (classDef name reference owner getters).methods = referenceConstructor reference owner :: getters
  := by
  rfl

/-- The constructor of a holder declares the reference. -/
theorem variableNames_referenceConstructor (reference owner : String) :
  (referenceConstructor reference owner).variableNames = [reference]
  := by
  rfl

/-- The constructor of a holder uses no class. -/
theorem usedClasses_referenceConstructor (reference owner : String) :
  (referenceConstructor reference owner).usedClasses = []
  := by
  rfl

end Holder

namespace Function

variable {contract assigned name : String} {arguments results : List Slot}

/-- The constructor of a result class declares its parameters. -/
theorem variableNames_resultConstructor (stem : String) (results : List Slot) :
  (resultConstructor stem results).variableNames = results.map (·.name)
  := by
  simp [Method.variableNames, Method.collect, resultConstructor, resultFields, Stmt.declared?,
    Stmt.collect, List.filterMap_map, List.flatMap_map, collect, parameter?, Function.comp_def]

/-- The constructor of a result class uses no class. -/
theorem usedClasses_resultConstructor (stem : String) (results : List Slot) :
  (resultConstructor stem results).usedClasses = []
  := by
  simp [Method.usedClasses, Method.collect, resultConstructor, Stmt.collect, List.flatMap_map,
    collect, class?]

/-- The map of a result class declares a local for itself and one for an element. -/
theorem eq_of_mem_variableNames_resultMap {stem : String} {results : List Slot} {name : String}
    (h : name ∈ (resultMap stem results).variableNames) :
  name = "map" ∨ name = Shape.elementName
  := by
  have found : name = "map"
      ∨ ∃ s ∈ results, name ∈ (s.encode stem (.member .self s.name)).collect parameter? := by
    simpa [Method.variableNames, Method.collect, resultMap, entry, Stmt.declared?, Stmt.collect,
      List.filterMap_map, List.flatMap_map, collect, collectAll, parameter?] using h
  apply found.imp_right
  rintro ⟨s, -, inside⟩
  apply Shape.eq_elementName_of_mem_encode _ _ rfl inside

/-- The map of a result class uses the type of the map and the provided class of values. -/
theorem eq_of_mem_usedClasses_resultMap {stem : String} {results : List Slot} {name : String}
    (h : name ∈ (resultMap stem results).usedClasses) :
  name = mapType ∨ name = Provided.value
  := by
  have found : name = mapType
      ∨ ∃ s ∈ results, name ∈ (s.encode stem (.member .self s.name)).collect class? := by
    simpa [Method.usedClasses, Method.collect, resultMap, entry, Stmt.collect, List.flatMap_map,
      collect, collectAll, class?] using h
  apply found.imp_right
  rintro ⟨s, -, inside⟩
  apply (Shape.mem_usedClasses_encode_iff _ _ rfl name).mp inside

/-- What is found in the method of a function: in what it encodes, and in what it returns. -/
theorem mem_collect_methodOf_iff {found? : Expr → Option String}
    (literal : ∀ value, found? (.literal value) = none)
    (superCall : ∀ method es, found? (.superCall method es) = none)
    (list : ∀ es, found? (.list es) = none) (x : String) :
  x ∈ (methodOf contract assigned name arguments results).collect found?
    ↔ (∃ s ∈ arguments,
        x ∈ (s.encode (inputStem contract assigned) (.name s.name)).collect found?)
      ∨ x ∈ (returned contract assigned results).1.collect found?
  := by
  simp [Method.collect, methodOf, Stmt.collect, collect, collectAll, collectAll_eq_flatMap,
    List.flatMap_map, literal, superCall, list]

/-- The decoded outputs of a function declare only the local for an element. -/
theorem eq_elementName_of_mem_returned {x : String}
    (h : x ∈ (returned contract assigned results).1.collect parameter?) :
  x = Shape.elementName
  := by
  by_cases single : results.length = 1
  · obtain ⟨s, rfl⟩ := List.length_eq_one_iff.mp single
    apply Shape.eq_elementName_of_mem_decode _ _ rfl h
  · rw [returned_of_length_ne_one single, collect, collectAll_eq_flatMap] at h
    obtain ⟨e, member, inside⟩ := List.mem_flatMap.mp h
    obtain ⟨position, bound, rfl⟩ := List.mem_mapIdx.mp member
    apply Shape.eq_elementName_of_mem_decode _ _ rfl inside

/-- What a method returns uses a class only for several outputs. -/
theorem mem_usedClasses_returned_iff (x : String) :
  x ∈ (returned contract assigned results).1.collect class?
    ↔ x = resultName contract assigned ∧ results.length ≠ 1
  := by
  by_cases single : results.length = 1
  · obtain ⟨s, rfl⟩ := List.length_eq_one_iff.mp single
    have bare : ((returned contract assigned [s]).1).collect class? = [] :=
      Shape.usedClasses_decode _ s.shape rfl
    simp [bare]
  · have bare : ∀ e ∈ decodedResults (outputStem contract assigned) results,
        e.collect class? = [] := by
      intro e member
      obtain ⟨position, bound, rfl⟩ := List.mem_mapIdx.mp member
      apply Shape.usedClasses_decode _ _ rfl
    rw [returned_of_length_ne_one single, collect, collectAll_eq_flatMap,
      List.flatMap_eq_nil_iff.mpr bare]
    simp [class?, single]

/-- The variables of the method of a function: its arguments, the local that it declares, and the
one for an element. -/
theorem mem_variableNames_methodOf {x : String}
    (h : x ∈ (methodOf contract assigned name arguments results).variableNames) :
  x ∈ arguments.map (·.name) ∨ x = localName ∨ x = Shape.elementName
  := by
  have found : x ∈ arguments.map (·.name) ∨ x = localName
      ∨ x ∈ (methodOf contract assigned name arguments results).collect parameter? := by
    simpa [Method.variableNames, methodOf, Stmt.declared?] using h
  apply found.imp_right (Or.imp_right _)
  intro inside
  rw [mem_collect_methodOf_iff (fun _ => rfl) (fun _ _ => rfl) (fun _ => rfl)] at inside
  obtain ⟨s, -, encoded⟩ | decoded := inside
  · apply Shape.eq_elementName_of_mem_encode _ _ rfl encoded
  · apply eq_elementName_of_mem_returned decoded

/-- The method of a function uses the provided class of values if it has arguments, and the result
class of the function if it has several outputs. -/
theorem mem_usedClasses_methodOf_iff (x : String) :
  x ∈ (methodOf contract assigned name arguments results).usedClasses
    ↔ (x = Provided.value ∧ arguments ≠ [])
      ∨ (x = resultName contract assigned ∧ results.length ≠ 1)
  := by
  have encoded : (∃ s ∈ arguments,
      x ∈ (s.encode (inputStem contract assigned) (.name s.name)).collect class?)
      ↔ x = Provided.value ∧ arguments ≠ [] := by
    have each (s : Slot) :
        x ∈ (s.encode (inputStem contract assigned) (.name s.name)).collect class?
          ↔ x = Provided.value := Shape.mem_usedClasses_encode_iff _ _ rfl x
    simp only [each]
    constructor
    · rintro ⟨s, member, rfl⟩
      exact ⟨rfl, List.ne_nil_of_mem member⟩
    · rintro ⟨rfl, some⟩
      obtain ⟨s, member⟩ := List.exists_mem_of_ne_nil arguments some
      exact ⟨s, member, rfl⟩
  rw [Method.usedClasses,
    mem_collect_methodOf_iff (fun _ => rfl) (fun _ _ => rfl) (fun _ => rfl), encoded,
    mem_usedClasses_returned_iff]

end Function

namespace Interface

/-- The method that binds a contract declares the address. -/
theorem variableNames_factory (contract : String) :
  (factory contract).variableNames = ["address"]
  := by
  rfl

/-- The method that binds a contract uses its class. -/
theorem usedClasses_factory (contract : String) :
  (factory contract).usedClasses = [contract]
  := by
  rfl

end Interface

end ContractBindings
