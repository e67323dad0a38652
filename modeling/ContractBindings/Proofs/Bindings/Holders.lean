import ContractBindings.Proofs.Bindings.ClassNames
import ContractBindings.Proofs.Bindings.Notes
import ContractBindings.Proofs.Struct.Nested

/-!
# Getters of events and calls

An event records the values of its inputs in a list, and a call those of its inputs and of its
outputs in two.  The holder of such a list has one getter for each declared parameter, in order:
getter number `k` reads position `k` of the list, and converts the value for the type under which
the parameter is recorded.  This is the declared type, whatever else is declared of the parameter,
except that an indexed input of an event is recorded as a digest when its type is `string`, `bytes`,
`tuple` or an array.  Structs are made for the parameters that are recorded as tuples or arrays of
tuples, and for no other.

`Interface.holders_of_bindings?` says this of the bindings of an interface, for each of its events
and each of its calls.
-/

namespace ContractBindings

/-- How values are recorded: under a list of what a field holds, with a word for values that have no
name, and each under a type that depends on its parameter. -/
structure Recording where
  field : String
  list : String
  word : String
  typeOf : Parameter → String

namespace Recording

/-- How an event records its inputs. -/
def parameters : Recording where
  field := "_event"
  list := "parameters"
  word := "param"
  typeOf p := if p.isDigested then "bytes32" else p.type

/-- How a call records its inputs. -/
def inputs : Recording where
  field := "_call"
  list := "inputValues"
  word := "value"
  typeOf p := p.type

/-- How a call records its outputs. -/
def outputs : Recording where
  field := "_call"
  list := "outputValues"
  word := "value"
  typeOf p := p.type

variable (r : Recording)

/-- The value at a position. -/
def valueAt (position : Nat) : Expr :=
  .member (.index (.member (.member .self r.field) r.list) (.literal (.number position))) "value"

/-- Whether a parameter is recorded as a tuple or as arrays of tuples. -/
def isTuple (p : Parameter) : Bool :=
  (TypeExpr.ofString (r.typeOf p)).isTuple

/-- The name of the struct of a parameter that is recorded as a tuple or as arrays of tuples. -/
def structName? (stem : String) (x : String × Parameter) : Option String :=
  if r.isTuple x.2 then some (Struct.nameOf stem [x.1]) else none

/-- Parameters under their distinct names, at their positions. -/
def items (ps : List Parameter) : List ((String × Parameter) × Nat) :=
  ((Name.siblings r.word [] (ps.map Parameter.label)).zip ps).zipIdx

/-- The getter that reads the position of a parameter and converts the value for the type under
which the parameter is recorded. -/
structure Reads (stem : String) (x : (String × Parameter) × Nat) (m : Method) : Prop where
  name : m.name = x.1.1
  kind : m.kind = .getter
  parameters : m.parameters = []
  converts : ∃ type convert,
    TypeText.codeType? (r.structName? stem x.1) (r.typeOf x.1.2) = .ok type
      ∧ TypeText.decode? (r.structName? stem x.1) (r.typeOf x.1.2) = .ok convert
      ∧ m.type = some type
      ∧ m.body = [.give (convert (r.valueAt x.2))]

/-- The structs of a parameter: one for each of the tuples in it if it is recorded as a tuple or as
arrays of tuples, and otherwise none. -/
structure HasStructs (stem : String) (x : (String × Parameter) × Nat) (classes : List ClassDef) :
    Prop where
  needed : classes ≠ [] ↔ r.isTuple x.1.2
  structs : r.isTuple x.1.2 → List.Forall₂ (Struct.IsStructOf stem) (x.1.2.tuples [x.1.1]) classes

/-- The holder of recorded values, with the structs that are made for each of them. -/
structure Holds (stem : String) (ps : List Parameter) (c : ClassDef)
    (structs : List (List ClassDef)) : Prop where
  fields : c.fields.map (·.name) = [r.field]
  length : (c.methods.filter (·.kind = .getter)).length = ps.length
  distinct : ((c.methods.filter (·.kind = .getter)).map (·.name)).Nodup
  getters : List.Forall₂ (r.Reads stem) (r.items ps) (c.methods.filter (·.kind = .getter))
  structs : List.Forall₂ (r.HasStructs stem) (r.items ps) structs

end Recording

/-- The classes that are made for an event under its name. -/
def Event.Made (x : String × Event Parameter) (classes : List ClassDef) : Prop :=
  ∃ event holder structs, classes = event :: holder :: structs.flatten
    ∧ event.name = x.1 ∧ event.base = some Provided.event
    ∧ holder.name = x.1 ++ "__Params"
    ∧ Recording.parameters.Holds x.1 x.2.inputs holder structs

/-- The classes that are made for a call under its name. -/
def Call.Made (x : String × Call Parameter) (classes : List ClassDef) : Prop :=
  ∃ call inputs outputs inputStructs outputStructs,
    classes = call :: inputs :: outputs :: (inputStructs.flatten ++ outputStructs.flatten)
    ∧ call.name = x.1 ++ "Call" ∧ call.base = some Provided.call
    ∧ inputs.name = x.1 ++ "Call__Inputs"
    ∧ outputs.name = x.1 ++ "Call__Outputs"
    ∧ Recording.inputs.Holds (x.1 ++ "Call__Inputs") x.2.inputs inputs inputStructs
    ∧ Recording.outputs.Holds (x.1 ++ "Call__Outputs") x.2.outputs outputs outputStructs

/-! ## Sources -/

/-- A source of which the values are recorded like that. -/
structure Recording.IsOf (r : Recording) (source : Source) : Prop where
  valueAt : ∀ position : Nat, r.valueAt position = source.valueAt position
  word : r.word = source.word
  typeOf : ∀ p, r.typeOf p = p.typeAt source

namespace Recording

theorem isOf_parameters :
  parameters.IsOf Source.eventParameters
  := by
  constructor
  · intro position
    rfl
  · rfl
  · intro p
    have digested : (p.isDigested = true)
        = ((Source.eventParameters.isEvent && p.indexed && Topic.isHashed p.type) = true) := by
      rw [Parameter.isDigested_eq]
      rfl
    have digest : Topic.digest.name = "bytes32" := by
      decide +kernel
    rw [Parameter.typeAt_eq, digest]
    simp only [parameters, digested]

theorem isOf_inputs :
  inputs.IsOf Source.callInputs
  := by
  constructor <;> intros <;> rfl

theorem isOf_outputs :
  outputs.IsOf Source.callOutputs
  := by
  constructor <;> intros <;> rfl

end Recording

/-! ## Slots -/

namespace Parameter

variable {context : String} {p : Parameter} {s : Slot} (h : p.check? context = .ok s)
  (source : Source) (name : String)

include h

/-- The slot under which a source records a parameter has the shape of the type under which it
records the parameter. -/
theorem shape?_typeAt_of_check? :
  (TypeExpr.ofString (p.typeAt source)).shape? = .ok ((s.renamed name).recordedBy source).shape
  := by
  obtain ⟨shape, fields, checked, -, rfl⟩ := check?_eq_ok_iff.mp h
  rw [typeAt_eq, Slot.recordedBy_eq]
  by_cases hashed : (source.isEvent && p.indexed && Topic.isHashed p.type) = true
  · rw [if_pos hashed, if_pos]
    · apply Topic.shape?_digest
    · apply hashed
  · rw [if_neg hashed, if_neg]
    · apply TypeExpr.shape?_of_check? checked
    · apply hashed

/-- A parameter that a source records as a tuple is recorded as it is declared. -/
theorem recordedBy_eq_of_isTuple (tuple : (TypeExpr.ofString (p.typeAt source)).isTuple) :
  (s.renamed name).recordedBy source = s.renamed name
  := by
  have shaped := TypeExpr.isTuple_of_shape? (shape?_typeAt_of_check? h source name)
  rw [tuple, Slot.recordedBy_eq] at shaped
  rw [Slot.recordedBy_eq, if_neg]
  -- What is hashed is recorded as a digest, which is no tuple.
  intro hashed
  rw [if_pos hashed] at shaped
  cases shaped

end Parameter

theorem Slot.name_recordedBy (source : Source) (s : Slot) :
  (s.recordedBy source).name = s.name
  := by
  rw [recordedBy_eq]
  split <;> rfl

/-- The getters of a holder are those that it is made with. -/
theorem Holder.filter_methods_classDef (name reference owner : String) (source : Source)
    (stem : String) (slots : List Slot) :
  (classDef name reference owner (Slot.getters source stem slots)).methods.filter
      (·.kind = .getter)
    = Slot.getters source stem slots
  := by
  rw [classDef, List.filter_cons_of_neg (by simp), List.filter_eq_self]
  intro m member
  obtain ⟨position, bound, rfl⟩ := List.mem_mapIdx.mp member
  rfl

/-- A slot has structs if and only if it is a tuple or arrays of tuples. -/
theorem Slot.structs_ne_nil_iff (stem : String) (s : Slot) :
  s.structs stem ≠ [] ↔ s.shape.isTuple
  := by
  obtain ⟨name, type, indexed, shape, fields⟩ := s
  by_cases tuple : shape.isTuple <;> simp [structs, tuple]

namespace Recording

variable {r : Recording} {source : Source} (like : r.IsOf source) {context : String}

include like

/-- The slot under which a source records a parameter has the struct of the parameter. -/
theorem structName?_of_check? {p : Parameter} {s : Slot} (h : p.check? context = .ok s)
    (stem name : String) :
  ((s.renamed name).recordedBy source).structName? stem = r.structName? stem (name, p)
  := by
  have tuple := TypeExpr.isTuple_of_shape? (Parameter.shape?_typeAt_of_check? h source name)
  have named : Struct.className stem name = Struct.nameOf stem [name] := by
    apply Struct.className_eq_nameOf stem []
  rw [Slot.structName?, structName?, isTuple, like.typeOf, tuple, Slot.name_recordedBy, ← named]
  rfl

/-- The getter of a parameter that passes the check. -/
theorem reads_getter {p : Parameter} {s : Slot} (h : p.check? context = .ok s)
    (stem name : String) (position : Nat) :
  r.Reads stem ((name, p), position)
    (((s.renamed name).recordedBy source).getter source stem position)
  := by
  have shaped := Parameter.shape?_typeAt_of_check? h source name
  have struct := structName?_of_check? like h stem name
  constructor
  · apply Slot.name_recordedBy
  · rfl
  · rfl
  · refine ⟨_, ((s.renamed name).recordedBy source).decode stem, ?_, ?_, rfl, ?_⟩
    · rw [like.typeOf, TypeText.codeType?_of_shape? shaped, ← struct]
      rfl
    · rw [like.typeOf, TypeText.decode?_of_shape? shaped, ← struct]
      rfl
    · rw [like.valueAt]
      rfl

/-- The structs of a parameter that passes the check. -/
theorem hasStructs_structs {p : Parameter} {s : Slot} (h : p.check? context = .ok s)
    (stem name : String) (position : Nat) :
  r.HasStructs stem ((name, p), position) (((s.renamed name).recordedBy source).structs stem)
  := by
  have tuple := TypeExpr.isTuple_of_shape? (Parameter.shape?_typeAt_of_check? h source name)
  rw [← like.typeOf] at tuple
  constructor
  · rw [isTuple, ← tuple]
    apply Slot.structs_ne_nil_iff
  · intro struct
    rw [isTuple, like.typeOf] at struct
    rw [Parameter.recordedBy_eq_of_isTuple h source name struct]
    apply Parameter.forall₂_isStructOf_structs h stem []

/-- A holder of recorded values with the structs of each of them. -/
theorem holds_classDef {ps : List Parameter} {slots : List Slot}
    (h : Parameter.checkAll? context ps = .ok slots) {reference : String}
    (known : Source.fieldOf reference = r.field) (name owner stem : String) :
  r.Holds stem ps
    (Holder.classDef name reference owner
      (Slot.getters source stem ((Slot.named r.word [] slots).map (Slot.recordedBy source))))
    (((Slot.named r.word [] slots).map (Slot.recordedBy source)).map (Slot.structs stem))
  := by
  have named : Slot.named r.word [] slots
      = List.zipWith Slot.renamed (Name.siblings r.word [] (ps.map Parameter.label)) slots := by
    rw [← Parameter.map_name_of_checkAll? h]
    rfl
  constructor
  · rw [← known]
    rfl
  · rw [Holder.filter_methods_classDef]
    simp [Slot.getters, Parameter.length_of_checkAll? h]
  · have names : ((Slot.named r.word [] slots).map (Slot.recordedBy source)).map (·.name)
        = Name.siblings r.word [] (slots.map (·.name)) := by
      rw [← Slot.map_name_named, List.map_map]
      apply List.map_congr_left
      intro s _
      apply Slot.name_recordedBy
    rw [Holder.filter_methods_classDef, Slot.map_name_getters, names]
    apply Name.nodup_distinct
  · have positioned : Slot.getters source stem
        ((Slot.named r.word [] slots).map (Slot.recordedBy source))
        = (Slot.named r.word [] slots).mapIdx fun k s =>
            (s.recordedBy source).getter source stem k := by
      apply List.ext_getElem <;> simp [Slot.getters]
    rw [Holder.filter_methods_classDef, positioned, named]
    apply Parameter.forall₂_mapIdx_of_checkAll? _ h
    intro p s checked name position
    apply reads_getter like checked
  · have positioned : ((Slot.named r.word [] slots).map (Slot.recordedBy source)).map
        (Slot.structs stem)
        = (Slot.named r.word [] slots).mapIdx fun _ s => (s.recordedBy source).structs stem := by
      apply List.ext_getElem <;> simp
    rw [positioned, named]
    apply Parameter.forall₂_mapIdx_of_checkAll? _ h
    intro p s checked name position
    apply hasStructs_structs like checked

end Recording

/-! ## Events and calls -/

/-- The classes of an event are made for its declared inputs. -/
theorem Event.Checked.made {e : Event Parameter} {e' : Event Slot} (h : Checked e e')
    (assigned : String) :
  Event.Made (assigned, e) (e'.classes assigned)
  := by
  obtain ⟨context, checked⟩ := h.inputs
  rw [classes, classesOf, Slot.structsAll_eq_flatMap, List.flatMap_def]
  refine ⟨_, _, _, rfl, rfl, rfl, rfl, ?_⟩
  apply Recording.holds_classDef Recording.isOf_parameters checked
  rfl

/-- The classes of a call are made for its declared inputs and outputs. -/
theorem Call.Checked.made {c : Call Parameter} {c' : Call Slot} (h : Checked c c')
    (assigned : String) :
  Call.Made (assigned, c) (c'.classes assigned)
  := by
  obtain ⟨context, checked⟩ := h.inputs
  obtain ⟨context', checked'⟩ := h.outputs
  have field : Source.fieldOf Source.callReference = "_call" := by
    rfl
  have inputs := Recording.holds_classDef Recording.isOf_inputs checked field
    (inputsName assigned) (className assigned) (inputsName assigned)
  have outputs := Recording.holds_classDef Recording.isOf_outputs checked' field
    (outputsName assigned) (className assigned) (outputsName assigned)
  -- Calls record their values as they are declared.
  have recorded : Slot.recordedBy Source.callInputs = id := by
    rfl
  have recorded' : Slot.recordedBy Source.callOutputs = id := by
    rfl
  rw [recorded, List.map_id, inputsName_eq] at inputs
  rw [recorded', List.map_id, outputsName_eq] at outputs
  rw [classes, classesOf, Slot.structsAll_eq_flatMap, Slot.structsAll_eq_flatMap,
    List.flatMap_def, List.flatMap_def, inputsName_eq, outputsName_eq]
  refine ⟨_, _, _, _, _, rfl, rfl, rfl, rfl, rfl, inputs, outputs⟩

namespace Interface

/-- Each event and each call of an interface has a holder with a getter for every parameter, which
reads its position and converts it for the type under which it is recorded, and has structs for the
parameters that are recorded as tuples. -/
theorem holders_of_bindings? {options : Options} {i : Interface Parameter} {b : Bindings}
    (made : i.bindings? options = .ok b) :
  i.namedEvents.map (·.2) = i.events ∧ i.namedCalls.map (·.2) = i.calls
    ∧ ∃ events contract calls,
      b.classes = events.flatten ++ contract ++ calls.flatten
      ∧ i.contractPass? options.allowed = .ok contract
      ∧ List.Forall₂ Event.Made i.namedEvents events
      ∧ List.Forall₂ Call.Made i.namedCalls calls
  := by
  obtain ⟨j, checked, rfl⟩ := bindings?_eq_ok_iff.mp made
  refine ⟨i.map_snd_namedEvents, i.map_snd_namedCalls, j.namedEvents.map fun x => x.2.classes x.1,
    (j.contractSection options.allowed).classes, j.namedCalls.map fun x => x.2.classes x.1,
    ?_, contractPass?_of_check? options.allowed checked, ?_, ?_⟩
  · simp [bindings, sections, eventSection, callSection, List.flatMap_def]
  · apply List.forall₂_map_right_iff.mpr
    apply (forall₂_namedEvents checked).imp
    rintro ⟨assigned, e⟩ ⟨assigned', e'⟩ ⟨rfl, h⟩
    apply h.made
  · apply List.forall₂_map_right_iff.mpr
    apply (forall₂_namedCalls checked).imp
    rintro ⟨assigned, c⟩ ⟨assigned', c'⟩ ⟨rfl, h⟩
    apply h.made

/-- An event and a function whose parameters have reserved names, one name or none, with indexed
parameters of all kinds and an indexed component. -/
def bazaar : Interface Parameter where
  name := "Bazaar"
  members :=
    [.event
      { name := "Swap"
        inputs :=
          [{ type := "string", name := some "class", indexed := true },
            { type := "tuple", name := some "class",
              components := some [{ type := "uint8[]", indexed := true }] },
            { type := "tuple[]", indexed := true, components := some [{ type := "bool" }] },
            { type := "uint256", name := some "class", indexed := true }]
        anonymous := false },
     .function
      { name := "swap"
        inputs :=
          [{ type := "tuple[2]", indexed := true, components := some [{ type := "bool" }] },
            { type := "bytes", name := some "new", indexed := true }]
        outputs := [{ type := "bool", name := some "class" }]
        mutability := "payable" }]

/-- The names and types of the methods of its classes. -/
def bazaarMethods : List (String × List (String × Option String)) :=
  [("Swap", [("params", some "Swap__Params")]),
    ("Swap__Params",
      [("constructor", none), ("class_", some "Bytes"), ("class_1", some "SwapClass_1Struct"),
        ("param2", some "Bytes"), ("class_2", some "BigInt")]),
    ("SwapClass_1Struct", [("value0", some "Array<BigInt>")]),
    ("Bazaar", [("bind", some "Bazaar")]),
    ("SwapCall", [("inputs", some "SwapCall__Inputs"), ("outputs", some "SwapCall__Outputs")]),
    ("SwapCall__Inputs",
      [("constructor", none), ("value0", some "Array<SwapCall__InputsValue0Struct>"),
        ("new_", some "Bytes")]),
    ("SwapCall__Outputs", [("constructor", none), ("class_", some "boolean")]),
    ("SwapCall__InputsValue0Struct", [("value0", some "boolean")])]

theorem holders_bazaar :
  ∃ b, bazaar.bindings? {} = .ok b
    ∧ b.classes.map (fun c => (c.name, c.methods.map fun m => (m.name, m.type)))
      = bazaarMethods
    ∧ ∃ events contract calls,
      b.classes = events.flatten ++ contract ++ calls.flatten
      ∧ List.Forall₂ Event.Made bazaar.namedEvents events
      ∧ List.Forall₂ Call.Made bazaar.namedCalls calls
  := by
  have methods : (bazaar.bindings? {}).map (fun b =>
      b.classes.map fun c => (c.name, c.methods.map fun m => (m.name, m.type)))
      = .ok bazaarMethods := by
    decide +kernel
  obtain ⟨b, made, methods⟩ := exists_bindings_of_map methods
  obtain ⟨-, -, events, contract, calls, classes, -, events_made, calls_made⟩ :=
    holders_of_bindings? made
  use b, made, methods, events, contract, calls, classes, events_made, calls_made

end Interface

end ContractBindings
