import ContractBindings.Proofs.Section.Unchecked
import ContractBindings.Proofs.Section.WellFormed
import ContractBindings.Proofs.Section.Wrapper
import ContractBindings.Proofs.Types.RoundTrip

/-!
# What the methods of a contract do

An `Exchange` is one use of the method of a function: the arguments with their encodings, and what
the contract answers with the decoded outputs.  It fits the function when each argument is encoded
and each item of the answer is decoded for the declared type of its own parameter, and the contract
gives this answer to a request that names the function as it is declared.

`Interface.wrapper_of_bindings?` says that each function that can be read has a method that does
just this, for all of its exchanges: the method sends the request, no other, and returns the decoded
outputs, a single one as it is and several in an object of a result class.
-/

namespace ContractBindings

variable {α : Type}

namespace Parameter

/-- The name of the struct of a parameter under a name, for a tuple or arrays of tuples. -/
def structName? (stem name : String) (p : Parameter) : Option String :=
  if (TypeExpr.ofString p.type).isTuple then some (Struct.className stem name) else none

/-- The conversions of the values of parameters under names, each for its own declared type. -/
def conversions (R : Runtime α)
    (conversion? : Option String → String → Except Fault (Expr → Expr)) (stem : String)
    (names : List String) (ps : List Parameter) : List (Value α → Option (Value α)) :=
  List.zipWith (fun name p =>
    R.convert? (conversion? (p.structName? stem name) p.type)) names ps

end Parameter

namespace Function

/-- The names of the parameters of the method of a function. -/
def argumentNames (f : Function Parameter) : List String :=
  Name.siblings "param" [localName] (f.inputs.map Parameter.label)

variable (R : Runtime α) (contract assigned : String) (f : Function Parameter)

/-- The conversions of the arguments of a function for encoding. -/
def argumentEncoders : List (Value α → Option (Value α)) :=
  Parameter.conversions R TypeText.encode? (inputStem contract assigned) f.argumentNames f.inputs

/-- The conversions of what the contract returns. -/
def resultDecoders : List (Value α → Option (Value α)) :=
  Parameter.conversions R TypeText.decode? (outputStem contract assigned) f.valueNames f.outputs

/-- The conversions of the outputs of a function for encoding. -/
def resultEncoders : List (Value α → Option (Value α)) :=
  Parameter.conversions R TypeText.encode? (outputStem contract assigned) f.valueNames f.outputs

end Function

/-- A use of the method of a function. -/
structure Exchange (α : Type) where
  arguments : List (Value α)
  encoded : List (Value α)
  answered : List (Value α)
  decoded : List (Value α)

/-- An exchange in which arguments and answer are converted for the declared types, and the
contract gives the answer to the request for the function after those that were sent before. -/
structure Exchange.Fits (R : Runtime α) (contract assigned : String) (f : Function Parameter)
    (m : Memory α) (x : Exchange α) : Prop where
  encoded : convertAll? (f.argumentEncoders R contract assigned) x.arguments = some x.encoded
  answered : R.answer? (m.requests ++ [Function.request f.name x.encoded])
    = some (.list x.answered)
  decoded : convertAll? (f.resultDecoders R contract assigned) x.answered = some x.decoded

/-- As many values are sent as the function has inputs. -/
theorem Exchange.Fits.length_encoded {R : Runtime α} {contract assigned : String}
    {f : Function Parameter} {m : Memory α} {x : Exchange α} (h : x.Fits R contract assigned f m) :
  x.encoded.length = f.inputs.length
  := by
  rw [(length_of_convertAll? h.encoded).2]
  simp [Function.argumentEncoders, Function.argumentNames, Parameter.conversions]

namespace Function

/-- A method that sends one request for a function and returns the only output. -/
def ReturnsValue (contract assigned : String) (f : Function Parameter) (w : Method) : Prop :=
  ∀ {α : Type} {R : Runtime α} {m : Memory α} {x : Exchange α}, x.Fits R contract assigned f m →
    ∀ self, ∃ d, x.decoded = [d]
      ∧ R.call w self x.arguments m = some (d, m.withRequest (request f.name x.encoded))

/-- A class that holds the outputs of a function under their names, and has a map of their
encodings. -/
structure HasResults (contract assigned : String) (f : Function Parameter) (d : ClassDef) :
    Prop where
  name : d.name = resultName contract assigned
  fields : d.fields.map (·.name) = f.valueNames
  toMap : ∃ w ∈ d.methods, w.name = "toMap" ∧
    ∀ {α : Type} {R : Runtime α} {m : Memory α} {self : Value α} {values encoded : List (Value α)},
      R.class? mapType = some .map
      → m.cell? self = some (.record d.name (f.valueNames.zip values))
      → convertAll? (f.resultEncoders R contract assigned) values = some encoded
      → R.call w self [] m
        = some (.object m.cells.length, m.withCell (.map (f.valueNames.zip encoded)))

/-- A method that sends one request for a function and returns the outputs in an object of a
class. -/
structure ReturnsObject (b : Bindings) (contract assigned : String) (f : Function Parameter)
    (w : Method) (d : ClassDef) : Prop where
  results : f.HasResults contract assigned d
  typed : ∃ arguments p, Stmt.give (.new d.name arguments) ∈ w.body
    ∧ d.methods.find? (·.kind == .constructor) = some p
    ∧ arguments.length = p.parameters.length
    ∧ ∀ {S : Signature}, S.Documented
      → S.element? (arrayOf Provided.value) = some Provided.value
      → (∀ c ∈ b.classes, c.base = some Provided.tuple → S.isTuple c.name)
      → List.Forall₂ (fun e v => e.HasType S
          (⟨localName, arrayOf Provided.value⟩ :: w.parameters) v.type) arguments p.parameters
  call {α : Type} {R : Runtime α} {m : Memory α} {x : Exchange α}
    (known : R.class? d.name = some (.generated d)) (fits : x.Fits R contract assigned f m)
    (self : Value α) :
    R.call w self x.arguments m
      = some (.object m.cells.length, (m.withRequest (request f.name x.encoded)).withCell
          (.record d.name (f.valueNames.zip x.decoded)))

end Function

/-! ## Conversions of declared parameters -/

namespace Parameter

/-- The slot of a parameter that passes the check has the struct of the parameter. -/
theorem structName?_of_check? {context : String} {p : Parameter} {s : Slot}
    (h : p.check? context = .ok s) (stem name : String) :
  p.structName? stem name = (s.renamed name).structName? stem
  := by
  obtain ⟨shape, fields, checked, -, rfl⟩ := check?_eq_ok_iff.mp h
  rw [structName?, ← TypeExpr.isTuple_of_check? checked]
  rfl

/-- Parameters that pass the check are converted one by one as their slots are. -/
theorem conversions_of_checkAll? {R : Runtime α}
    {conversion? : Option String → String → Except Fault (Expr → Expr)} {stem : String}
    {convert : Slot → Value α → Option (Value α)} {context : String}
    (each : ∀ {p : Parameter} {s : Slot}, p.check? context = .ok s → ∀ name,
      R.convert? (conversion? (p.structName? stem name) p.type) = convert (s.renamed name))
    {ps : List Parameter} {slots : List Slot} (h : checkAll? context ps = .ok slots)
    {names : List String} (length : names.length = ps.length) :
  conversions R conversion? stem names ps
    = (List.zipWith Slot.renamed names slots).map convert
  := by
  induction ps generalizing names slots with
  | nil =>
      obtain rfl := Except.ok.inj h
      obtain rfl := List.length_eq_zero_iff.mp length
      rfl
  | cons p ps ih =>
      obtain ⟨s, ss, checked, rest, rfl⟩ := checkAll?_cons_eq_ok_iff.mp h
      obtain _ | ⟨name, names⟩ := names
      · cases length
      · have later := ih rest (Nat.succ.inj length)
        rw [conversions] at later ⊢
        rw [List.zipWith_cons_cons, List.zipWith_cons_cons, each checked, later, List.map_cons]

/-- A parameter that passes the check is converted for encoding by the shape of its slot. -/
theorem convert?_encode_of_check? (R : Runtime α) (stem : String) {context : String}
    {p : Parameter} {s : Slot} (h : p.check? context = .ok s) (name : String) :
  R.convert? (TypeText.encode? (p.structName? stem name) p.type) = (s.renamed name).encoder R
  := by
  obtain ⟨shape, fields, accepted, -, rfl⟩ := check?_eq_ok_iff.mp h
  apply R.convert?_encode _ (TypeExpr.shape?_of_check? accepted)

/-- A parameter that passes the check is decoded by the shape of its slot. -/
theorem convert?_decode_of_check? (R : Runtime α) (stem : String) {context : String}
    {p : Parameter} {s : Slot} (h : p.check? context = .ok s) (name : String) :
  R.convert? (TypeText.decode? (p.structName? stem name) p.type)
    = (s.renamed name).decoder R stem
  := by
  rw [structName?_of_check? h]
  obtain ⟨shape, fields, accepted, -, rfl⟩ := check?_eq_ok_iff.mp h
  apply R.convert?_decode _ (TypeExpr.shape?_of_check? accepted)

end Parameter

/-! ## The method of a function -/

namespace Function

/-- The arguments of a function have different names. -/
theorem nodup_map_name_arguments (f : Function Slot) :
  (f.arguments.map (·.name)).Nodup
  := by
  rw [arguments, Slot.map_name_named]
  apply Name.nodup_distinct

namespace Checked

variable {f : Function Parameter} {f' : Function Slot} (h : Checked f f')

include h

theorem map_name_arguments :
  f'.arguments.map (·.name) = f.argumentNames
  := by
  rw [arguments, Slot.map_name_named, h.inputs.map_name, argumentNames]

theorem map_name_results :
  f'.results.map (·.name) = f.valueNames
  := by
  rw [Function.map_name_results, h.outputs.length_eq, valueNames]
  apply List.ext_getElem <;> simp

variable (R : Runtime α) (contract assigned : String)

theorem argumentEncoders_eq :
  f.argumentEncoders R contract assigned = f'.arguments.map (Slot.encoder R)
  := by
  obtain ⟨context, checked⟩ := h.inputs
  rw [argumentEncoders, Parameter.conversions_of_checkAll?
    (Parameter.convert?_encode_of_check? R _) checked (by simp [argumentNames]), argumentNames,
    ← h.inputs.map_name]
  rfl

theorem resultDecoders_eq :
  f.resultDecoders R contract assigned
    = f'.results.map (Slot.decoder R (outputStem contract assigned))
  := by
  obtain ⟨context, checked⟩ := h.outputs
  rw [resultDecoders, Parameter.conversions_of_checkAll?
    (Parameter.convert?_decode_of_check? R _) checked (by simp [valueNames]),
    h.zipWith_valueNames]

theorem resultEncoders_eq :
  f.resultEncoders R contract assigned = f'.results.map (Slot.encoder R)
  := by
  obtain ⟨context, checked⟩ := h.outputs
  rw [resultEncoders, Parameter.conversions_of_checkAll?
    (Parameter.convert?_encode_of_check? R _) checked (by simp [valueNames]),
    h.zipWith_valueNames]

/-- The method returns the only output. -/
theorem returnsValue (single : f.outputs.length = 1) :
  f.ReturnsValue contract assigned (f'.method contract assigned)
  := by
  intro α R m x fits self
  obtain ⟨encoded, answered, decoded⟩ := fits
  rw [h.argumentEncoders_eq] at encoded
  rw [h.resultDecoders_eq] at decoded
  rw [method, h.name]
  apply call_methodOf_of_length_eq_one f'.nodup_map_name_arguments f'.localName_notMem_arguments
    encoded answered decoded
  rw [h.length_results, single]

/-- The result class of a function holds its outputs. -/
theorem hasResults :
  f.HasResults contract assigned (resultClass contract assigned f'.results)
  := by
  constructor
  · rfl
  · rw [resultClass, map_name_resultFields, h.map_name_results]
  · use resultMap (outputStem contract assigned) f'.results
    rw [methods_resultClass]
    refine ⟨?_, rfl, ?_⟩
    · apply List.mem_cons_of_mem _ List.mem_cons_self
    · intro α R m self values encoded known held encodings
      rw [h.resultEncoders_eq] at encodings
      rw [← h.map_name_results] at held ⊢
      apply call_toMap known held encodings f'.nodup_map_name_results

/-- The method returns the outputs in an object of the result class. -/
theorem returnsObject {b : Bindings} (several : f.outputs.length ≠ 1)
    (structs : ∀ c ∈ Slot.structsAll (outputStem contract assigned) f'.results, c ∈ b.classes) :
  f.ReturnsObject b contract assigned (f'.method contract assigned)
    (resultClass contract assigned f'.results)
  := by
  have several : f'.results.length ≠ 1 := by
    rwa [h.length_results]
  constructor
  · apply h.hasResults
  · use decodedResults (outputStem contract assigned) f'.results,
      resultConstructor (outputStem contract assigned) f'.results
    refine ⟨?_, rfl, ?_, ?_⟩
    · rw [method, methodOf, returned_of_length_ne_one several]
      apply List.mem_cons_of_mem _ List.mem_cons_self
    · simp [decodedResults, resultConstructor, resultFields]
    · intro S documented values known
      apply hasType_decodedResults documented values
      · intro c member
        apply known c (structs c member)
      · apply List.find?_cons_of_pos
        apply beq_self_eq_true
  · intro α R m x known fits self
    obtain ⟨encoded, answered, decoded⟩ := fits
    rw [h.argumentEncoders_eq] at encoded
    rw [h.resultDecoders_eq] at decoded
    rw [method, h.name, ← h.map_name_results]
    apply call_methodOf_of_length_ne_one f'.nodup_map_name_arguments
      f'.localName_notMem_arguments encoded answered decoded several known
      f'.nodup_map_name_results

end Checked

end Function

/-! ## The methods of a contract -/

namespace Interface

/-- A function that can be read has a name for its method. -/
theorem exists_namedFunction {allowed : List String} {i : Interface Parameter} {k : Nat}
    {f : Function Parameter} (nth : (i.readable allowed)[k]? = some f) :
  ∃ assigned, (i.namedFunctions allowed)[k]? = some (assigned, f)
  := by
  obtain ⟨bound, -⟩ := List.getElem?_eq_some_iff.mp nth
  have named : k < (Name.distinct (i.methodCandidates allowed)).length := by
    simpa [methodCandidates] using bound
  use (Name.distinct (i.methodCandidates allowed))[k]
  apply List.getElem?_zip_eq_some.mpr
  use List.getElem?_eq_getElem named, nth

/-- A class of the section of the contract is among those of bindings. -/
theorem mem_bindings_of_mem_contractSection {options : Options} {j : Interface Slot}
    {c : ClassDef} (h : c ∈ (j.contractSection options.allowed).classes) :
  c ∈ (j.bindings options).classes
  := by
  apply List.mem_flatMap.mpr
  use j.contractSection options.allowed
  constructor
  · apply List.mem_cons_of_mem _ List.mem_cons_self
  · apply h

/-- The class of the contract is among those of bindings. -/
theorem contractClass_mem_bindings (options : Options) (j : Interface Slot) :
  j.contractClass options.allowed ∈ (j.bindings options).classes
  := by
  apply mem_bindings_of_mem_contractSection
  apply List.mem_append_right _ (List.mem_singleton_self _)

/-- The classes of a function are among those of bindings. -/
theorem mem_bindings_of_mem_classes (options : Options) {j : Interface Slot}
    {x : String × Function Slot} (member : x ∈ j.namedFunctions options.allowed) {c : ClassDef}
    (inside : c ∈ x.2.classes j.name x.1) :
  c ∈ (j.bindings options).classes
  := by
  apply mem_bindings_of_mem_contractSection
  apply List.mem_append_left
  apply List.mem_flatMap.mpr
  use x, member

/-- The class of the contract has the methods of its functions in order, after the one that binds
it to an address. -/
theorem getElem?_methods_contractClass {allowed : List String} {j : Interface Slot} {k : Nat}
    {x : String × Function Slot} (named : (j.namedFunctions allowed)[k]? = some x) :
  (j.contractClass allowed).methods[k + 1]? = some (x.2.method j.name x.1)
  := by
  rw [contractClass, contractClassOf, List.getElem?_cons_succ, List.getElem?_map, named]
  rfl

/-- Each function that can be read has a method of the contract, which sends a request for it with
the encoded arguments and returns the decoded outputs. -/
theorem wrapper_of_bindings? {options : Options} {i : Interface Parameter} {b : Bindings}
    (made : i.bindings? options = .ok b) {k : Nat} {f : Function Parameter}
    (nth : (i.readable options.allowed)[k]? = some f) :
  ∃ assigned c w,
    (i.namedFunctions options.allowed)[k]? = some (assigned, f)
    ∧ c ∈ b.classes ∧ c.name = i.name ∧ c.base = some Provided.contract
    ∧ c.methods[k + 1]? = some w ∧ w.name = assigned
    ∧ w.parameters.map (·.name) = f.argumentNames
    ∧ (∀ {α : Type} {R : Runtime α} {m : Memory α} {x : Exchange α},
        x.Fits R i.name assigned f m → x.encoded.length = f.inputs.length)
    ∧ (f.outputs.length = 1 → f.ReturnsValue i.name assigned w)
    ∧ (f.outputs.length ≠ 1 → ∃ d ∈ b.classes, f.ReturnsObject b i.name assigned w d)
  := by
  obtain ⟨j, checked, rfl⟩ := bindings?_eq_ok_iff.mp made
  obtain ⟨assigned, named⟩ := exists_namedFunction nth
  obtain ⟨⟨assigned', f'⟩, named', same, checked'⟩ :=
    getElem?_of_forall₂ (forall₂_namedFunctions options.allowed checked) named
  obtain rfl : assigned' = assigned := same
  have member : (assigned', f') ∈ j.namedFunctions options.allowed :=
    List.mem_of_getElem? named'
  rw [← (name_and_members_of_check? checked).1]
  refine ⟨assigned', j.contractClass options.allowed, f'.method j.name assigned', named,
    j.contractClass_mem_bindings options, rfl, rfl, getElem?_methods_contractClass named', rfl, ?_,
    fun fits => fits.length_encoded, ?_, ?_⟩
  · rw [← checked'.map_name_arguments]
    simp [Function.method, Function.methodOf]
  · apply checked'.returnsValue
  · intro several
    use Function.resultClass j.name assigned' f'.results
    have results : f'.results.length ≠ 1 := by
      rwa [checked'.length_results]
    constructor
    · apply mem_bindings_of_mem_classes options member
      rw [Function.classes, Function.classesOf, if_neg results]
      apply List.mem_cons_self
    · apply checked'.returnsObject j.name assigned' several
      intro c inside
      apply mem_bindings_of_mem_classes options member
      rw [Function.classes, Function.classesOf]
      apply List.mem_append_left
      apply List.mem_append_right _ inside

/-- A function with two inputs of one name, which is that of a local, and with one without name. -/
def quote : Function Parameter where
  name := "quote"
  inputs :=
    [{ type := "uint256", name := some "result" }, { type := "uint8[][]" },
      { type := "bool", name := some "result" }]
  outputs := [{ type := "uint256" }, { type := "string" }]
  mutability := "view"

/-- A contract with this function and another one of its name. -/
def market : Interface Parameter where
  name := "Market"
  members :=
    [.function
      { name := "quote", inputs := [], outputs := [{ type := "bool" }], mutability := "view" },
     .function quote]

/-- The library that remembers how its values were made, with a contract that answers a price in a
currency. -/
def trading (d : ClassDef) : Runtime Made :=
  { Library.remembering with
    class? name :=
      if name = d.name then some (.generated d)
      else if name = Function.mapType then some .map
      else none
    answer? _ := some (.list
      [.given (.by "fromUnsignedBigInt" (.number 7)), .given (.by "fromString" (.text "EUR"))]) }

/-- A use of the function. -/
def order : Exchange Made where
  arguments := [.number 3, .list [.list [.number 1, .number 2], .list []], .truth true]
  encoded :=
    [.given (.by "fromUnsignedBigInt" (.number 3)),
     .given (.by "fromArray" (.list
       [.given (.by "fromUnsignedBigIntArray" (.list [.number 1, .number 2])),
        .given (.by "fromUnsignedBigIntArray" (.list []))])),
     .given (.by "fromBoolean" (.truth true))]
  answered :=
    [.given (.by "fromUnsignedBigInt" (.number 7)), .given (.by "fromString" (.text "EUR"))]
  decoded := [.number 7, .text "EUR"]

/-- The shapes of the types of the function. -/
theorem shapes_quote :
  (TypeExpr.ofString "uint256").shape? = .ok (.scalar (.uint (some 31)))
    ∧ (TypeExpr.ofString "uint8[][]").shape? = .ok (.array (.array (.scalar (.uint (some 0)))))
    ∧ (TypeExpr.ofString "bool").shape? = .ok (.scalar .bool)
    ∧ (TypeExpr.ofString "string").shape? = .ok (.scalar .string)
  := by
  decide +kernel

theorem valueNames_quote :
  quote.valueNames = ["value0", "value1"]
  := by
  rfl

/-- The outputs are encoded as what the contract answered. -/
theorem encoded_order (d : ClassDef) :
  convertAll? (quote.resultEncoders (trading d) "Market" "quote1") order.decoded
    = some order.answered
  := by
  obtain ⟨number, -, -, text⟩ := shapes_quote
  rw [Function.resultEncoders, valueNames_quote]
  simp only [Parameter.conversions, quote, List.zipWith_cons_cons, List.zipWith_nil_left,
    Runtime.convert?_encode _ _ number, Runtime.convert?_encode _ _ text]
  rfl

theorem fits_order (d : ClassDef) :
  order.Fits (trading d) "Market" "quote1" quote {}
  := by
  obtain ⟨number, table, truth, text⟩ := shapes_quote
  have names : quote.argumentNames = ["result_", "param1", "result_1"] := by
    decide +kernel
  constructor
  · rw [Function.argumentEncoders, names]
    simp only [Parameter.conversions, quote, List.zipWith_cons_cons, List.zipWith_nil_left,
      Runtime.convert?_encode _ _ number, Runtime.convert?_encode _ _ table,
      Runtime.convert?_encode _ _ truth]
    rfl
  · rfl
  · rw [Function.resultDecoders, valueNames_quote]
    simp only [Parameter.conversions, quote, List.zipWith_cons_cons, List.zipWith_nil_left,
      Runtime.convert?_decode _ _ number, Runtime.convert?_decode _ _ text]
    rfl

/-- What is kept of the use and of the object that it returns. -/
def ordered (d : ClassDef) : Memory Made where
  cells := [.record d.name [("value0", .number 7), ("value1", .text "EUR")]]
  requests := [Function.request "quote" order.encoded]

/-- The fields of this object, encoded. -/
def orderedMap : Cell Made :=
  .map [("value0", .given (.by "fromUnsignedBigInt" (.number 7))),
    ("value1", .given (.by "fromString" (.text "EUR")))]

theorem wrapper_market :
  ∃ b c w d t, market.bindings? {} = .ok b ∧ c ∈ b.classes ∧ d ∈ b.classes
    ∧ c.methods[2]? = some w ∧ w.name = "quote1"
    ∧ w.parameters.map (·.name) = ["result_", "param1", "result_1"]
    ∧ d.fields.map (·.name) = ["value0", "value1"]
    ∧ (trading d).call w .nothing order.arguments {} = some (.object 0, ordered d)
    ∧ t ∈ d.methods ∧ t.name = "toMap"
    ∧ (trading d).call t (.object 0) [] (ordered d)
      = some (.object 1, (ordered d).withCell orderedMap)
  := by
  have accepted : market.check?.isOk := by
    decide +kernel
  have nth : (market.readable Mutability.readable)[1]? = some quote := by
    rfl
  have computed : (market.namedFunctions Mutability.readable)[1]? = some ("quote1", quote) := by
    decide +kernel
  have names : quote.argumentNames = ["result_", "param1", "result_1"] := by
    decide +kernel
  obtain ⟨b, made⟩ := exists_bindings?_of_isOk accepted {}
  obtain ⟨assigned, c, w, named, among, -, -, method, called, parameters, -, -, several⟩ :=
    wrapper_of_bindings? made nth
  obtain ⟨rfl, -⟩ := Prod.mk.inj (Option.some.inj (named.symm.trans computed))
  obtain ⟨d, generated, returns⟩ := several (by decide)
  obtain ⟨t, member, labelled, mapped⟩ := returns.results.toMap
  refine ⟨b, c, w, d, t, made, among, generated, method, called, parameters.trans names,
    returns.results.fields, ?_, member, labelled, ?_⟩
  · apply returns.call _ (fits_order d)
    apply if_pos rfl
  · have other : Function.mapType ≠ d.name := by
      rw [returns.results.name]
      decide
    have known : (trading d).class? Function.mapType = some .map := by
      simp [trading, other]
    apply mapped known rfl (encoded_order d)

end Interface

end ContractBindings
