import ContractBindings.Bindings
import ContractBindings.Proofs.Name.Distinct
import ContractBindings.Proofs.Struct.WellFormed

/-!
# Sections are well-formed

The classes of an event, those of a call, and the method and the classes of a function are
well-formed over all names that contain the standard ones and the names of these classes
themselves.
-/

namespace ContractBindings

variable {names : List String} (standard : standardNames ⊆ names)

namespace Holder

/-- A holder is well-formed over names that contain its owner. -/
theorem wellFormed_classDef {name reference owner : String} {getters : List Method}
    (known : owner ∈ names) (h : ∀ m ∈ getters, m.WellFormed names) :
  (classDef name reference owner getters).WellFormed names
  := by
  have resolved := Resolves.of_mem known
  constructor
  · simp [classDef]
  · simpa [classDef] using resolved
  · rw [classDef, List.forall_mem_cons]
    constructor
    · constructor
      · simpa [Method.declaredTypes] using resolved
      · apply Stmt.WellFormed.assign _ _ .nil
        · apply Expr.WellFormed.member .self
        · apply Expr.WellFormed.name
          apply List.mem_cons_self
      · simp [Stmt.declared?]
    · apply h

theorem wellFormed_getter {name holder : String} (known : holder ∈ names) :
  (getter name holder).WellFormed names
  := by
  have resolved := Resolves.of_mem known
  apply Method.wellFormed_of_give resolved
  apply Expr.WellFormed.new resolved
  rw [List.forall_mem_singleton]
  apply Expr.WellFormed.self

end Holder

include standard

/-- The classes of an event are well-formed over their names. -/
theorem Event.wellFormed_classes {e : Event Slot} {assigned : String}
    (known : ∀ c ∈ e.classes assigned, c.name ∈ names) :
  ∀ c ∈ e.classes assigned, c.WellFormed names
  := by
  rw [classes, classesOf, List.forall_mem_cons, List.forall_mem_cons] at known ⊢
  obtain ⟨event, holder, structs⟩ := known
  refine ⟨?_, ?_, ?_⟩
  · constructor
    · simpa using Resolves.of_mem (standard (by decide))
    · simp
    · rw [List.forall_mem_singleton]
      apply Holder.wellFormed_getter holder
  · apply Holder.wellFormed_classDef event
    apply Slot.wellFormed_getters standard structs
  · apply Slot.wellFormed_structsAll standard structs

/-- The classes of a call are well-formed over their names. -/
theorem Call.wellFormed_classes {c : Call Slot} {assigned : String}
    (known : ∀ d ∈ c.classes assigned, d.name ∈ names) :
  ∀ d ∈ c.classes assigned, d.WellFormed names
  := by
  rw [classes, classesOf, List.forall_mem_cons, List.forall_mem_cons, List.forall_mem_cons,
    List.forall_mem_append] at known ⊢
  obtain ⟨call, inputs, outputs, inputStructs, outputStructs⟩ := known
  refine ⟨?_, ?_, ?_, ?_, ?_⟩
  · constructor
    · simpa using Resolves.of_mem (standard (by decide))
    · simp
    · simp only [List.forall_mem_cons]
      use Holder.wellFormed_getter inputs, Holder.wellFormed_getter outputs
      apply List.forall_mem_nil
  · apply Holder.wellFormed_classDef call
    apply Slot.wellFormed_getters standard inputStructs
  · apply Holder.wellFormed_classDef call
    apply Slot.wellFormed_getters standard outputStructs
  · apply Slot.wellFormed_structsAll standard inputStructs
  · apply Slot.wellFormed_structsAll standard outputStructs

namespace Function

variable {contract assigned : String} {arguments results : List Slot}

omit standard in
/-- The constructor of a result class assigns its parameters. -/
theorem wellFormed_assignments (names : List String) (stem : String) (results : List Slot) :
  Stmt.WellFormed names ((resultFields stem results).map (·.name))
    (results.map fun s => .assign (.member .self s.name) (.name s.name))
  := by
  rw [← List.append_nil (List.map _ results)]
  apply Stmt.WellFormed.append _ .nil
  rw [List.forall_mem_map]
  intro s member
  use rfl
  apply Stmt.WellFormed.assign (.member .self) _ .nil
  apply Expr.WellFormed.name
  rw [resultFields, List.map_map]
  apply List.mem_map_of_mem member

/-- The map of a result class is filled with the encoded fields. -/
theorem wellFormed_entries {stem map : String}
    (known : ∀ c ∈ Slot.structsAll stem results, c.name ∈ names) {bound : List String}
    (declared : map ∈ bound) :
  Stmt.WellFormed names bound
    (results.map (fun s =>
        .effect (.call (.name map) "set"
          [.literal (.text s.name), s.encode stem (.member .self s.name)] []))
      ++ [.give (.name map)])
  := by
  apply Stmt.WellFormed.append
  · rw [List.forall_mem_map]
    intro s member
    use rfl
    apply Stmt.WellFormed.effect _ .nil
    apply Expr.WellFormed.call
    · apply Expr.WellFormed.name declared
    · simp only [List.forall_mem_cons]
      use .literal, Slot.wellFormed_encode standard known member (.member .self)
      apply List.forall_mem_nil
    · apply List.forall_mem_nil
  · apply Stmt.WellFormed.give _ .nil
    apply Expr.WellFormed.name declared

/-- The class that holds the outputs of a function is well-formed over the names of the structs
of the outputs. -/
theorem wellFormed_resultClass
    (known : ∀ c ∈ Slot.structsAll (outputStem contract assigned) results, c.name ∈ names) :
  (resultClass contract assigned results).WellFormed names
  := by
  have fields : ∀ v ∈ resultFields (outputStem contract assigned) results,
      Resolves names v.type := by
    rw [resultFields, List.forall_mem_map]
    intro s member
    apply Slot.resolves_codeType standard known member
  have map : Resolves names mapType := Resolves.of_mem (standard (by decide))
  constructor
  · simp [resultClass]
  · apply fields
  · simp only [resultClass, List.forall_mem_cons]
    refine ⟨?_, ?_, List.forall_mem_nil _⟩
    · constructor
      · simpa [Method.declaredTypes] using fields
      · apply wellFormed_assignments
      · simp [List.filterMap_map, Function.comp_def, Stmt.declared?]
    · constructor
      · simpa [Method.declaredTypes] using map
      · rw [List.cons_append]
        apply Stmt.WellFormed.declare
        · apply Expr.WellFormed.new map (List.forall_mem_nil _)
        · apply wellFormed_entries standard known List.mem_cons_self
      · simp

/-- The conversions of the outputs of a function are well-formed where the local is bound. -/
theorem wellFormed_decodedResults {stem : String}
    (known : ∀ c ∈ Slot.structsAll stem results, c.name ∈ names) {bound : List String}
    (declared : localName ∈ bound) :
  ∀ e ∈ decodedResults stem results, e.WellFormed names bound
  := by
  intro e member
  obtain ⟨position, within, rfl⟩ := List.mem_mapIdx.mp member
  apply Slot.wellFormed_decode standard known (List.getElem_mem within)
  apply Expr.WellFormed.index (.name declared) .literal

/-- What a method returns is well-formed where the local is bound, and its type resolves. -/
theorem wellFormed_returned
    (known : ∀ c ∈ classesOf contract assigned arguments results, c.name ∈ names)
    {bound : List String} (declared : localName ∈ bound) :
  (returned contract assigned results).1.WellFormed names bound
    ∧ Resolves names (returned contract assigned results).2
  := by
  rw [classesOf, List.forall_mem_append, List.forall_mem_append] at known
  obtain ⟨⟨result, structs⟩, -⟩ := known
  have decoded := wellFormed_decodedResults standard structs declared
  by_cases single : results.length = 1
  · obtain ⟨s, rfl⟩ := List.length_eq_one_iff.mp single
    constructor
    · apply decoded
      apply List.mem_cons_self
    · apply Slot.resolves_codeType standard structs List.mem_cons_self
  · rw [if_neg single, List.forall_mem_singleton] at result
    rw [returned_of_length_ne_one single]
    use .new (.of_mem result) decoded
    apply Resolves.of_mem result

/-- The method of a function is well-formed over the names of its classes, if no argument is
called like the local. -/
theorem wellFormed_methodOf (name : String)
    (known : ∀ c ∈ classesOf contract assigned arguments results, c.name ∈ names)
    (free : localName ∉ arguments.map (·.name)) :
  (methodOf contract assigned name arguments results).WellFormed names
  := by
  have inputs : ∀ c ∈ Slot.structsAll (inputStem contract assigned) arguments, c.name ∈ names := by
    intro c member
    apply known
    apply List.mem_append_right _ member
  have bound_eq : (methodOf contract assigned name arguments results).parameters.map (·.name)
      = arguments.map (·.name) := by
    simp [methodOf]
  constructor
  · intro type member
    obtain member | member := List.mem_append.mp member
    · simp only [methodOf, List.map_map] at member
      obtain ⟨s, inside, rfl⟩ := List.mem_map.mp member
      apply Slot.resolves_codeType standard inputs inside
    · obtain rfl := Option.some.inj (Option.mem_toList.mp member)
      apply (wellFormed_returned standard known (List.mem_singleton_self localName)).2
  · rw [bound_eq]
    apply Stmt.WellFormed.declare
    · apply Expr.WellFormed.superCall
      simp only [List.forall_mem_cons]
      refine ⟨.literal, ?_, List.forall_mem_nil _⟩
      apply Expr.WellFormed.list
      rw [List.forall_mem_map]
      intro s inside
      apply Slot.wellFormed_encode standard inputs inside
      apply Expr.WellFormed.name
      apply List.mem_map_of_mem inside
    · apply Stmt.WellFormed.give _ .nil
      apply (wellFormed_returned standard known List.mem_cons_self).1
  · rw [bound_eq]
    simpa [methodOf, Stmt.declared?] using free

/-- The classes of a function are well-formed over their names. -/
theorem wellFormed_classesOf
    (known : ∀ c ∈ classesOf contract assigned arguments results, c.name ∈ names) :
  ∀ c ∈ classesOf contract assigned arguments results, c.WellFormed names
  := by
  rw [classesOf, List.forall_mem_append, List.forall_mem_append] at known ⊢
  obtain ⟨⟨-, outputs⟩, inputs⟩ := known
  refine ⟨⟨?_, ?_⟩, ?_⟩
  · split
    · apply List.forall_mem_nil
    · rw [List.forall_mem_singleton]
      apply wellFormed_resultClass standard outputs
  · apply Slot.wellFormed_structsAll standard outputs
  · apply Slot.wellFormed_structsAll standard inputs

omit standard in
/-- No argument of a function is called like the local. -/
theorem localName_notMem_arguments (f : Function Slot) :
  localName ∉ f.arguments.map (·.name)
  := by
  rw [Function.arguments, Slot.map_name_named,
    Name.mem_siblings_iff (by decide)]
  simp

end Function

/-- The class of a contract is well-formed over names that contain its own, if its methods
are. -/
theorem Interface.wellFormed_contractClassOf {contract : String} {methods : List Method}
    (known : contract ∈ names) (h : ∀ m ∈ methods, m.WellFormed names) :
  (contractClassOf contract methods).WellFormed names
  := by
  have resolved := Resolves.of_mem known
  constructor
  · simpa [contractClassOf] using Resolves.of_mem (standard (by decide))
  · simp [contractClassOf]
  · rw [contractClassOf, List.forall_mem_cons]
    refine ⟨?_, h⟩
    constructor
    · have address : Resolves names Provided.address := Resolves.of_mem (standard (by decide))
      simp [factory, Method.declaredTypes, resolved, address]
    · apply Stmt.WellFormed.give _ .nil
      apply Expr.WellFormed.new resolved
      simp only [List.forall_mem_cons]
      use .literal, .name List.mem_cons_self
      apply List.forall_mem_nil
    · simp [factory, Stmt.declared?]

/-- The classes of all sections are well-formed over their names. -/
theorem Interface.wellFormed_bindings {options : Options} {i : Interface Slot}
    (known : ∀ c ∈ (i.bindings options).classes, c.name ∈ names) :
  ∀ c ∈ (i.bindings options).classes, c.WellFormed names
  := by
  simp only [bindings, sections, List.flatMap_cons, List.flatMap_nil, List.append_nil,
    List.forall_mem_append, eventSection, contractSection, callSection, List.forall_mem_flatMap,
    List.forall_mem_singleton] at known ⊢
  obtain ⟨events, ⟨functions, contract⟩, calls⟩ := known
  refine ⟨?_, ⟨?_, ?_⟩, ?_⟩
  · intro x member
    apply Event.wellFormed_classes standard (events x member)
  · intro x member
    apply Function.wellFormed_classesOf standard (functions x member)
  · apply wellFormed_contractClassOf standard contract
    rw [List.forall_mem_map]
    intro x member
    apply Function.wellFormed_methodOf standard _ (functions x member)
    apply Function.localName_notMem_arguments
  · intro x member
    apply Call.wellFormed_classes standard (calls x member)

end ContractBindings
