import ContractBindings.Proofs.Interface.Checked
import ContractBindings.Proofs.Struct.Mention
import ContractBindings.Proofs.Struct.Occurrence
import ContractBindings.Proofs.Types.Text

/-!
# Structs of nested tuples

The tuples at a declared parameter are the parameter itself and, at every depth, the components
that are tuples or arrays of tuples.  `Parameter.tuples` lists them, each before those inside it and
these in the order of the components.  A component goes by the name that it is given among its
siblings, and a tuple by the path of names that leads to it.

`Parameter.structs?_of_check?` says that a parameter that passes the check has one struct for each
of its tuples, in this order.  The struct is named after the path and has a getter for each
component, which reads the position of the component and converts it for its declared type.
-/

namespace ContractBindings

/-- An occurrence is spelled as its stem followed by the capitalized names of its path. -/
theorem Occurrence.spelled_eq (stem : String) (path : List String) :
  spelled ⟨stem, path⟩ = stem ++ String.join (path.map Name.capitalize)
  := by
  induction path generalizing stem with
  | nil => simp [spelled]
  | cons name rest ih =>
      have later := ih (Struct.innerStem stem name)
      rw [spelled] at later ⊢
      rw [List.foldl_cons, later, List.map_cons, String.join_cons, Struct.innerStem,
        String.append_assoc]

/-- A tuple by the names that lead to it, with its components under the names they are given. -/
structure NestedTuple where
  path : List String
  components : List (String × Parameter)

namespace Parameter

/-- Whether a parameter is a tuple or a nesting of arrays of tuples. -/
def isTuple (p : Parameter) : Bool :=
  (TypeExpr.ofString p.type).isTuple

/-- The names given to components that stand side by side. -/
def componentNames (components : List Parameter) : List String :=
  Name.siblings Slot.componentWord [] (components.map label)

/-- The components of a tuple under the names they are given. -/
def namedComponents (p : Parameter) : List (String × Parameter) :=
  (componentNames (p.components.getD [])).zip (p.components.getD [])

mutual

/-- The tuples at a parameter to which a path leads, each before those inside. -/
def tuples (path : List String) : Parameter → List NestedTuple
  | ⟨type, name, indexed, components⟩ =>
    if (TypeExpr.ofString type).isTuple then
      ⟨path, namedComponents ⟨type, name, indexed, components⟩⟩ :: innerTuples path components
    else
      []

/-- The tuples among the components of a tuple to which a path leads. -/
def innerTuples (path : List String) : Option (List Parameter) → List NestedTuple
  | none => []
  | some ps => tuplesAll path (componentNames ps) ps

/-- The tuples at parameters below a path, under their names. -/
def tuplesAll (path : List String) : List String → List Parameter → List NestedTuple
  | name :: names, p :: ps => p.tuples (path ++ [name]) ++ tuplesAll path names ps
  | _, _ => []

end

end Parameter

namespace Struct

/-- The name of the struct of the tuple to which a path leads. -/
def nameOf (stem : String) (path : List String) : String :=
  stem ++ String.join (path.map Name.capitalize) ++ "Struct"

/-- The name of the struct of a component, for a tuple or arrays of tuples. -/
def componentClass? (stem : String) (path : List String) (name : String) (p : Parameter) :
    Option String :=
  if p.isTuple then some (nameOf stem (path ++ [name])) else none

/-- The getter of a component at a position of the tuple to which a path leads. -/
structure IsGetterOf (stem : String) (path : List String) (x : (String × Parameter) × Nat)
    (m : Method) : Prop where
  name : m.name = x.1.1
  kind : m.kind = .getter
  parameters : m.parameters = []
  converts : ∃ type convert,
    TypeText.codeType? (componentClass? stem path x.1.1 x.1.2) x.1.2.type = .ok type
      ∧ TypeText.decode? (componentClass? stem path x.1.1 x.1.2) x.1.2.type = .ok convert
      ∧ m.type = some type
      ∧ m.body = [.give (convert (.index .self (.literal (.number x.2))))]
      ∧ ∀ name ∈ componentClass? stem path x.1.1 x.1.2, Nesting name type

/-- The struct of a tuple: named after its path, and with a getter for each component. -/
structure IsStructOf (stem : String) (t : NestedTuple) (c : ClassDef) : Prop where
  name : c.name = nameOf stem t.path
  exported : c.exported = true
  base : c.base = some Provided.tuple
  fields : c.fields = []
  distinct : (c.methods.map (·.name)).Nodup
  getters : List.Forall₂ (IsGetterOf stem t.path) t.components.zipIdx c.methods

/-- The struct of the tuple below a path is named by the path. -/
theorem className_eq_nameOf (stem : String) (path : List String) (name : String) :
  className (Occurrence.spelled ⟨stem, path⟩) name = nameOf stem (path ++ [name])
  := by
  rw [className_spelled, Occurrence.spelled_eq]
  rfl

end Struct

namespace Parameter

/-- Parameters pass the check together as each of them does. -/
theorem forall₂_of_checkAll? {context : String} {ps : List Parameter} {slots : List Slot}
    (h : checkAll? context ps = .ok slots) :
  List.Forall₂ (fun p s => p.check? context = .ok s) ps slots
  := by
  induction ps generalizing slots with
  | nil =>
      obtain rfl := Except.ok.inj h
      apply List.Forall₂.nil
  | cons p ps ih =>
      obtain ⟨s, ss, checked, rest, rfl⟩ := checkAll?_cons_eq_ok_iff.mp h
      apply List.Forall₂.cons
      · apply checked
      · apply ih rest

/-- What holds of each parameter that passes the check holds of parameters that stand side by side,
at their positions. -/
theorem forall₂_mapIdx_of_checkAll? {β : Type}
    {R : (String × Parameter) × Nat → β → Prop} {f : Nat → Slot → β} {context : String}
    (each : ∀ p s, p.check? context = .ok s → ∀ name position,
      R ((name, p), position) (f position (s.renamed name)))
    {ps : List Parameter} {slots : List Slot} (h : checkAll? context ps = .ok slots)
    (names : List String) :
  List.Forall₂ R (names.zip ps).zipIdx ((List.zipWith Slot.renamed names slots).mapIdx f)
  := by
  obtain ⟨same, checked⟩ := List.forall₂_iff_get.mp (forall₂_of_checkAll? h)
  apply List.forall₂_iff_get.mpr
  constructor
  · simp [same]
  · intro position bound bound'
    simp only [List.get_eq_getElem, List.getElem_zipIdx, List.getElem_zip, List.getElem_mapIdx,
      List.getElem_zipWith, Nat.zero_add]
    apply each
    apply checked

/-- The struct of a slot is that of the component that it is made from. -/
theorem structName?_eq_componentClass? {context : String} {p : Parameter} {s : Slot}
    (h : p.check? context = .ok s) (stem : String) (path : List String) (name : String) :
  (s.renamed name).structName? (Occurrence.spelled ⟨stem, path⟩)
    = Struct.componentClass? stem path name p
  := by
  obtain ⟨shape, fields, checked, -, rfl⟩ := check?_eq_ok_iff.mp h
  rw [Slot.structName?, Struct.componentClass?, isTuple, ← TypeExpr.isTuple_of_check? checked,
    ← Struct.className_eq_nameOf]
  rfl

/-- The getter of a slot is that of the component that it is made from. -/
theorem isGetterOf_getter {context : String} {p : Parameter} {s : Slot}
    (h : p.check? context = .ok s) (stem : String) (path : List String) (name : String)
    (position : Nat) :
  Struct.IsGetterOf stem path ((name, p), position)
    ((s.renamed name).getter .component (Occurrence.spelled ⟨stem, path⟩) position)
  := by
  have named := structName?_eq_componentClass? h stem path name
  have nesting : ∀ known ∈ Struct.componentClass? stem path name p,
      Nesting known ((s.renamed name).codeType (Occurrence.spelled ⟨stem, path⟩)) := by
    intro known there
    apply Slot.nesting_codeType (named.trans there)
  obtain ⟨shape, fields, checked, -, rfl⟩ := check?_eq_ok_iff.mp h
  have shaped := TypeExpr.shape?_of_check? checked
  constructor
  · rfl
  · rfl
  · rfl
  · refine ⟨_, shape.decode (Struct.componentClass? stem path name p), ?_, ?_, rfl, ?_, nesting⟩
    · rw [TypeText.codeType?_of_shape? shaped, ← named]
      rfl
    · apply TypeText.decode?_of_shape? shaped
    · rw [← named]
      rfl

/-- The getters of slots are those of the components that they are made from. -/
theorem forall₂_isGetterOf_getters {context : String} {ps : List Parameter} {slots : List Slot}
    (h : checkAll? context ps = .ok slots) (stem : String) (path names : List String) :
  List.Forall₂ (Struct.IsGetterOf stem path) (names.zip ps).zipIdx
    (Slot.getters .component (Occurrence.spelled ⟨stem, path⟩)
      (List.zipWith Slot.renamed names slots))
  := by
  apply forall₂_mapIdx_of_checkAll? _ h
  intro p s checked name position
  apply isGetterOf_getter checked

/-- The fields of the slot of a tuple are the slots of its components under the names they are
given. -/
theorem exists_slots_of_checkComponents? {context : String} {ps : List Parameter}
    {fields : List Slot} (h : checkComponents? context (some ps) = .ok fields) :
  ∃ slots, checkAll? context ps = .ok slots
    ∧ fields = List.zipWith Slot.renamed (componentNames ps) slots
  := by
  obtain ⟨slots, checked, rfl⟩ := exists_named_of_checkComponents? h
  use slots, checked
  rw [componentNames, ← map_name_of_checkAll? checked]
  rfl

/-- The fields of the slot of a tuple carry the names that its components are given. -/
theorem map_name_of_checkComponents? {context : String} {ps : List Parameter}
    {fields : List Slot} (h : checkComponents? context (some ps) = .ok fields) :
  fields.map (·.name) = componentNames ps
  := by
  obtain ⟨slots, checked, rfl⟩ := exists_slots_of_checkComponents? h
  rw [componentNames, ← map_name_of_checkAll? checked]
  apply Slot.map_name_named

/-- The struct of a tuple is that of the fields of its slot. -/
theorem isStructOf_classDef {context : String} {p : Parameter} {fields : List Slot}
    (h : checkComponents? context p.components = .ok fields) (stem : String) (path : List String)
    (name : String) :
  Struct.IsStructOf stem ⟨path ++ [name], p.namedComponents⟩
    (Struct.classDef (Occurrence.spelled ⟨stem, path⟩) name fields)
  := by
  cases components : p.components with
  | none =>
      rw [components] at h
      cases h
  | some ps =>
      rw [components] at h
      constructor
      · apply Struct.className_eq_nameOf
      · rfl
      · rfl
      · rfl
      · rw [Struct.classDef, Slot.map_name_getters, map_name_of_checkComponents? h]
        apply Name.nodup_distinct
      · obtain ⟨slots, checked, rfl⟩ := exists_slots_of_checkComponents? h
        rw [namedComponents, components, Struct.classDef, ← Struct.spelled_append_singleton]
        apply forall₂_isGetterOf_getters checked

mutual

/-- The structs of the slot of a parameter are those of its tuples. -/
theorem forall₂_isStructOf_structs {context : String} {p : Parameter} {s : Slot}
    (h : p.check? context = .ok s) (stem : String) (path : List String) (name : String) :
  List.Forall₂ (Struct.IsStructOf stem) (p.tuples (path ++ [name]))
    ((s.renamed name).structs (Occurrence.spelled ⟨stem, path⟩))
  := by
  obtain ⟨type, declared, indexed, components⟩ := p
  obtain ⟨shape, fields, checked, inside, rfl⟩ := check?_eq_ok_iff.mp h
  rw [tuples, ← TypeExpr.isTuple_of_check? checked, Slot.renamed, Slot.structs]
  by_cases tuple : shape.isTuple
  · rw [if_pos tuple] at inside
    rw [if_pos tuple, if_pos tuple]
    apply List.Forall₂.cons
    · apply isStructOf_classDef inside
    · rw [← Struct.spelled_append_singleton]
      apply forall₂_isStructOf_innerTuples inside
  · rw [if_neg tuple, if_neg tuple]
    apply List.Forall₂.nil

/-- The structs of the fields of the slot of a tuple are those of the tuples inside. -/
theorem forall₂_isStructOf_innerTuples {context : String} {components : Option (List Parameter)}
    {fields : List Slot} (h : checkComponents? context components = .ok fields)
    (stem : String) (path : List String) :
  List.Forall₂ (Struct.IsStructOf stem) (innerTuples path components)
    (Slot.structsAll (Occurrence.spelled ⟨stem, path⟩) fields)
  := by
  obtain _ | ps := components
  · cases h
  · obtain ⟨slots, checked, rfl⟩ := exists_slots_of_checkComponents? h
    rw [innerTuples]
    apply forall₂_isStructOf_structsAll checked

/-- The structs of the slots of parameters are those of their tuples. -/
theorem forall₂_isStructOf_structsAll {context : String} {ps : List Parameter} {slots : List Slot}
    (h : checkAll? context ps = .ok slots) (stem : String) (path names : List String) :
  List.Forall₂ (Struct.IsStructOf stem) (tuplesAll path names ps)
    (Slot.structsAll (Occurrence.spelled ⟨stem, path⟩) (List.zipWith Slot.renamed names slots))
  := by
  obtain _ | ⟨p, ps⟩ := ps
  · obtain rfl := Except.ok.inj h
    rw [List.zipWith_nil_right]
    cases names <;> apply List.Forall₂.nil
  · obtain ⟨s, ss, checked, rest, rfl⟩ := checkAll?_cons_eq_ok_iff.mp h
    obtain _ | ⟨name, names⟩ := names
    · apply List.Forall₂.nil
    · rw [tuplesAll, List.zipWith_cons_cons, Slot.structsAll]
      apply List.rel_append
      · apply forall₂_isStructOf_structs checked
      · apply forall₂_isStructOf_structsAll rest

end

/-! ## Tuples among components -/

/-- The tuple of a parameter comes first among its tuples. -/
theorem mem_tuples_self {p : Parameter} (h : p.isTuple) (path : List String) :
  ⟨path, p.namedComponents⟩ ∈ p.tuples path
  := by
  obtain ⟨type, name, indexed, components⟩ := p
  rw [tuples, if_pos]
  · apply List.mem_cons_self
  · apply h

/-- A component that is a tuple is among the tuples below the path of names. -/
theorem mem_tuplesAll {p : Parameter} (h : p.isTuple) {path names : List String} {name : String}
    {ps : List Parameter} (member : (name, p) ∈ names.zip ps) :
  ⟨path ++ [name], p.namedComponents⟩ ∈ tuplesAll path names ps
  := by
  induction names generalizing ps with
  | nil => cases member
  | cons first names ih =>
      obtain _ | ⟨q, ps⟩ := ps
      · cases member
      · rw [tuplesAll, List.mem_append]
        obtain same | later := List.mem_cons.mp member
        · obtain ⟨rfl, rfl⟩ := Prod.mk.inj same
          left
          apply mem_tuples_self h
        · right
          apply ih later

mutual

/-- The components of a tuple that are tuples are among the tuples, too. -/
theorem mem_tuples_of_component {p q : Parameter} {path : List String} {t : NestedTuple}
    (h : t ∈ p.tuples path) {name : String} (member : (name, q) ∈ t.components)
    (tuple : q.isTuple) :
  ⟨t.path ++ [name], q.namedComponents⟩ ∈ p.tuples path
  := by
  obtain ⟨type, declared, indexed, components⟩ := p
  rw [tuples] at h ⊢
  split at h
  · next isTuple =>
    rw [if_pos isTuple, List.mem_cons]
    right
    obtain rfl | inside := List.mem_cons.mp h
    · obtain _ | ps := components
      · cases member
      · apply mem_tuplesAll tuple member
    · apply mem_innerTuples_of_component inside member tuple
  · cases h

/-- The same for the tuples inside a tuple. -/
theorem mem_innerTuples_of_component {components : Option (List Parameter)} {q : Parameter}
    {path : List String} {t : NestedTuple} (h : t ∈ innerTuples path components) {name : String}
    (member : (name, q) ∈ t.components) (tuple : q.isTuple) :
  ⟨t.path ++ [name], q.namedComponents⟩ ∈ innerTuples path components
  := by
  obtain _ | ps := components
  · cases h
  · rw [innerTuples] at h ⊢
    apply mem_tuplesAll_of_component h member tuple

/-- The same for the tuples at parameters side by side. -/
theorem mem_tuplesAll_of_component {ps : List Parameter} {q : Parameter}
    {path names : List String} {t : NestedTuple} (h : t ∈ tuplesAll path names ps) {name : String}
    (member : (name, q) ∈ t.components) (tuple : q.isTuple) :
  ⟨t.path ++ [name], q.namedComponents⟩ ∈ tuplesAll path names ps
  := by
  obtain _ | ⟨p, ps⟩ := ps
  · cases names <;> cases h
  · obtain _ | ⟨first, names⟩ := names
    · cases h
    · rw [tuplesAll, List.mem_append] at h ⊢
      obtain here | there := h
      · left
        apply mem_tuples_of_component here member tuple
      · right
        apply mem_tuplesAll_of_component there member tuple

end

/-! ## All structs of a parameter -/

/-- A parameter that passes the check has one struct for each of its tuples, in order, and a
component that is a tuple has one among them. -/
theorem structs?_of_check? {context : String} {p : Parameter} {s : Slot}
    (h : p.check? context = .ok s) (tuple : p.isTuple) (stem field : String) :
  ∃ classes, p.structs? stem field = .ok classes
    ∧ List.Forall₂ (Struct.IsStructOf stem) (p.tuples [field]) classes
    ∧ ∀ t ∈ p.tuples [field], ∀ x ∈ t.components, x.2.isTuple →
        ∃ c ∈ classes, Struct.IsStructOf stem ⟨t.path ++ [x.1], x.2.namedComponents⟩ c
  := by
  have structs := forall₂_isStructOf_structs h stem [] field
  obtain ⟨shape, fields, checked, inside, rfl⟩ := check?_eq_ok_iff.mp h
  have shaped : shape.isTuple := (TypeExpr.isTuple_of_check? checked).trans tuple
  rw [if_pos shaped] at inside
  rw [Slot.structs_of_isTuple shaped] at structs
  refine ⟨_, ?_, structs, ?_⟩
  · rw [structs?, fields?_of_checkComponents? inside]
    rfl
  · intro t there x member among
    obtain ⟨position, nth⟩ := List.mem_iff_getElem?.mp
      (mem_tuples_of_component there member among)
    obtain ⟨c, made, struct⟩ := getElem?_of_forall₂ structs nth
    exact ⟨c, List.mem_of_getElem? made, struct⟩

/-- Arrays of tuples with a tuple, a component of a reserved name, and arrays of tuples called like
the tuple. -/
def legs : Parameter where
  type := "tuple[]"
  components := some
    [{ type := "tuple", name := some "info", components := some [{ type := "bool" }] },
      { type := "bytes32[]", name := some "class", indexed := true },
      { type := "tuple[2][]", name := some "info", components := some [{ type := "string" }] }]

theorem structs?_legs :
  (legs.tuples ["legs"]).map (fun t => Struct.nameOf "Swap" t.path)
      = ["SwapLegsStruct", "SwapLegsInfoStruct", "SwapLegsInfo1Struct"]
    ∧ ∃ s classes, legs.check? "Swap" = .ok s ∧ legs.structs? "Swap" "legs" = .ok classes
      ∧ List.Forall₂ (Struct.IsStructOf "Swap") (legs.tuples ["legs"]) classes
  := by
  constructor
  · decide +kernel
  · have accepted : Fault.of? (legs.check? "Swap") = none := by
      decide +kernel
    obtain ⟨s, checked⟩ := (Fault.of?_eq_none_iff _).mp accepted
    obtain ⟨classes, made, structs, -⟩ :=
      structs?_of_check? checked (by decide +kernel) "Swap" "legs"
    use s, classes, checked, made, structs

end Parameter

end ContractBindings
