import ContractBindings.Proofs.Code.Typing
import ContractBindings.Proofs.Types.Text
import ContractBindings.Source
import Mathlib.Tactic.Common

/-!
# Conversions are well typed

`Signature.Documented` lists what the library declares of the values that are decoded from the
chain: a conversion in each direction for every scalar type, for the arrays of it, for tuples
and arrays of tuples, and for arrays of values.  Over such a signature the conversion of a
decoded value has the type that represents it, and the conversion of a value that is so
represented has the type of a decoded value, however deeply arrays are nested.
-/

namespace ContractBindings

/-- What the library declares of decoded values and of tuples. -/
structure Signature.Documented (S : Signature) : Prop where
  decode (s : Scalar) : S.method? Provided.value ("to" ++ s.decodedKind) [] = some s.codeType
  decodeArray (s : Scalar) :
    S.method? Provided.value ("to" ++ s.decodedKind ++ "Array") [] = some (arrayOf s.codeType)
  encode (s : Scalar) :
    S.static? Provided.value ("from" ++ s.encodedKind) s.codeType = some Provided.value
  encodeArray (s : Scalar) :
    S.static? Provided.value ("from" ++ s.encodedKind ++ "Array") (arrayOf s.codeType)
      = some Provided.value
  tuple : S.isTuple Provided.tuple
  castTuple {name} : S.isTuple name → S.castable Provided.tuple name
  toTuple : S.method? Provided.value "toTuple" [] = some Provided.tuple
  toTupleArray {name} :
    S.isTuple name → S.method? Provided.value "toTupleArray" [name] = some (arrayOf name)
  toArray : S.method? Provided.value "toArray" [] = some (arrayOf Provided.value)
  fromTuple {name} :
    S.isTuple name → S.static? Provided.value "fromTuple" name = some Provided.value
  fromTupleArray {name} :
    S.isTuple name → S.static? Provided.value "fromTupleArray" (arrayOf name) = some Provided.value
  fromArray : S.static? Provided.value "fromArray" (arrayOf Provided.value) = some Provided.value

/-- A conversion of a decoded value is not the method `map`. -/
theorem to_append_ne_mapMethod (kind : String) :
  "to" ++ kind ≠ mapMethod
  := by
  intro same
  have first := congrArg (·.toList.head?) same
  simp [mapMethod] at first

namespace Shape

variable {S : Signature} (documented : S.Documented) {structName : Option String}

include documented

omit documented in
/-- The local for an element has the type that it is declared at. -/
theorem hasType_element (type : String) (scope : List Variable) :
  Expr.HasType S (⟨elementName, type⟩ :: scope) (.name elementName) type
  := by
  apply Expr.HasType.name (v := ⟨elementName, type⟩)
  simp

/-- The class that represents a tuple is a class of tuples. -/
theorem isTuple_tupleClass (known : ∀ name ∈ structName, S.isTuple name) :
  S.isTuple (tupleClass structName)
  := by
  rw [tupleClass]
  cases made : structClass? structName with
  | none => apply documented.tuple
  | some name =>
      apply known
      apply (Option.filter_eq_some_iff.mp made).1

variable (known : S.isTuple (tupleClass structName))

include known

/-- The conversion of a decoded value has the type that represents it. -/
theorem hasType_decode (shape : Shape) {scope : List Variable} {v : Expr}
    (h : Expr.HasType S scope v Provided.value) :
  Expr.HasType S scope (shape.decode structName v) (shape.codeType structName)
  := by
  induction shape generalizing scope v with
  | scalar s => apply Expr.HasType.call (to_append_ne_mapMethod _) h (documented.decode s)
  | tuple =>
      have converted := Expr.HasType.call (by decide) h documented.toTuple
      rw [decode, codeType]
      rw [tupleClass] at known ⊢
      cases made : structClass? structName with
      | none => apply converted
      | some name =>
          rw [made] at known
          apply Expr.HasType.cast converted (documented.castTuple known)
  | array element ih =>
      cases element with
      | scalar s =>
          apply Expr.HasType.call _ h (documented.decodeArray s)
          rw [String.append_assoc]
          apply to_append_ne_mapMethod
      | tuple => apply Expr.HasType.call (by decide) h (documented.toTupleArray known)
      | array inner =>
          apply Expr.HasType.map
          · apply Expr.HasType.call (by decide) h documented.toArray
          · apply ih
            apply hasType_element

/-- The conversion of a represented value has the type of decoded values. -/
theorem hasType_encode (shape : Shape) {scope : List Variable} {v : Expr}
    (h : Expr.HasType S scope v (shape.codeType structName)) :
  Expr.HasType S scope (shape.encode structName v) Provided.value
  := by
  induction shape generalizing scope v with
  | scalar s => apply Expr.HasType.staticCall h (documented.encode s)
  | tuple => apply Expr.HasType.staticCall h (documented.fromTuple known)
  | array element ih =>
      cases element with
      | scalar s => apply Expr.HasType.staticCall h (documented.encodeArray s)
      | tuple => apply Expr.HasType.staticCall h (documented.fromTupleArray known)
      | array inner =>
          apply Expr.HasType.staticCall _ documented.fromArray
          -- The type of the elements is read off the function, and only then compared with `h`.
          apply Expr.HasType.map
          · apply h
          · apply ih
            apply hasType_element

end Shape

/-- Over a documented signature, the conversions of an accepted type are well typed with the
type that represents it, and all functions inside them are, too. -/
theorem TypeExpr.hasType_conversions {S : Signature} (documented : S.Documented)
    {structName : Option String} (known : ∀ name ∈ structName, S.isTuple name)
    {context text : String} {shape : Shape}
    (accepted : (ofString text).check? context = .ok shape) :
  ∃ type decode encode,
    TypeText.codeType? structName text = .ok type
    ∧ TypeText.decode? structName text = .ok decode
    ∧ TypeText.encode? structName text = .ok encode
    ∧ (∀ scope v, v.HasType S scope Provided.value → (decode v).Typed S scope type)
    ∧ ∀ scope v, v.HasType S scope type → (encode v).Typed S scope Provided.value
  := by
  have tupleClass := Shape.isTuple_tupleClass documented known
  have shape_eq := shape?_of_check? accepted
  refine ⟨shape.codeType structName, shape.decode structName, shape.encode structName,
    ?_, ?_, ?_, ?_, ?_⟩
  · apply TypeText.codeType?_of_shape? shape_eq
  · apply TypeText.decode?_of_shape? shape_eq
  · apply TypeText.encode?_of_shape? shape_eq
  · intro scope v h
    apply (Shape.hasType_decode documented tupleClass shape h).typed
  · intro scope v h
    apply (Shape.hasType_encode documented tupleClass shape h).typed

namespace Library

/-- The kinds that decoded values are converted to, with their types. -/
def decodedKinds : List (String × String) :=
  [("Address", Provided.address), ("Boolean", "boolean"), ("String", "string"),
    ("Bytes", Provided.bytes), ("BigInt", Provided.integer)]

/-- The kinds that values are encoded from, with their types. -/
def encodedKinds : List (String × String) :=
  [("Address", Provided.address), ("Boolean", "boolean"), ("String", "string"),
    ("Bytes", Provided.bytes), ("FixedBytes", Provided.bytes),
    ("UnsignedBigInt", Provided.integer), ("SignedBigInt", Provided.integer)]

/-- The methods of decoded values without type arguments. -/
def methods : List (String × String) :=
  decodedKinds.map (fun (kind, type) => ("to" ++ kind, type))
    ++ decodedKinds.map (fun (kind, type) => ("to" ++ kind ++ "Array", arrayOf type))
    ++ [("toTuple", Provided.tuple), ("toArray", arrayOf Provided.value)]

/-- The static methods that make values, with the types that they take. -/
def makers (tuples : List String) : List (String × String) :=
  encodedKinds.map (fun (kind, type) => ("from" ++ kind, type))
    ++ encodedKinds.map (fun (kind, type) => ("from" ++ kind ++ "Array", arrayOf type))
    ++ tuples.map (fun name => ("fromTuple", name))
    ++ tuples.map (fun name => ("fromTupleArray", arrayOf name))
    ++ [("fromArray", arrayOf Provided.value)]

theorem fromTuple_mem_makers {tuples : List String} {name : String} (h : name ∈ tuples) :
  ("fromTuple", name) ∈ makers tuples
  := by
  simp [makers, h]

theorem fromTupleArray_mem_makers {tuples : List String} {name : String} (h : name ∈ tuples) :
  ("fromTupleArray", arrayOf name) ∈ makers tuples
  := by
  simp only [makers, List.mem_append, List.mem_map]
  left
  right
  use name

/-- The library as the holder of the parameters of a `Swap` event sees it, with two classes of
tuples. -/
def swap : Signature where
  self := "Swap__Params"
  member? type field :=
    [(("Swap__Params", "_event"), "Swap"), (("Swap", "parameters"), "Array<EventParam>"),
      (("EventParam", "value"), Provided.value)].lookup (type, field)
  element? type := [("Array<EventParam>", "EventParam")].lookup type
  method? type method types :=
    match types with
    | [] => if type = Provided.value then methods.lookup method else none
    | [name] =>
      if type = Provided.value ∧ method = "toTupleArray" ∧ name ∈ tuples then
        some (arrayOf name)
      else
        none
    | _ => none
  static? owner method argument :=
    if owner = Provided.value ∧ (method, argument) ∈ makers tuples then some owner else none
  castable type target := type = Provided.tuple ∧ target ∈ tuples
  isTuple name := name ∈ tuples
where
  /-- The classes of tuples. -/
  tuples : List String := [Provided.tuple, "SwapLegsStruct"]

theorem documented_swap : swap.Documented where
  decode s := by cases s <;> rfl
  decodeArray s := by cases s <;> rfl
  encode s := by cases s <;> rfl
  encodeArray s := by cases s <;> rfl
  tuple := List.mem_cons_self
  castTuple h := ⟨rfl, h⟩
  toTuple := rfl
  toTupleArray h := if_pos ⟨rfl, rfl, h⟩
  toArray := rfl
  fromTuple h := if_pos ⟨rfl, fromTuple_mem_makers h⟩
  fromTupleArray h := if_pos ⟨rfl, fromTupleArray_mem_makers h⟩
  fromArray := rfl

/-- The first parameter of a `Swap` event. -/
def firstParameter : Expr :=
  Source.eventParameters.valueAt 0

theorem hasType_firstParameter :
  firstParameter.HasType swap [] Provided.value
  := by
  apply Expr.HasType.member
  · apply Expr.HasType.index
    · apply Expr.HasType.member
      · apply Expr.HasType.member
        · apply Expr.HasType.self
        · rfl
      · rfl
    · apply Expr.HasType.position
    · rfl
  · rfl

theorem hasType_conversions_swap :
  swap.Documented
  ∧ (∀ name ∈ some "SwapLegsStruct", swap.isTuple name)
  ∧ (TypeExpr.ofString "tuple[2][]").check? "Swap.legs" = .ok (.array (.array .tuple))
  ∧ ∃ type decode encode,
    TypeText.codeType? (some "SwapLegsStruct") "tuple[2][]" = .ok type
    ∧ TypeText.decode? (some "SwapLegsStruct") "tuple[2][]" = .ok decode
    ∧ TypeText.encode? (some "SwapLegsStruct") "tuple[2][]" = .ok encode
    ∧ (decode firstParameter).Typed swap [] type
    ∧ (encode (decode firstParameter)).Typed swap [] Provided.value
  := by
  have known : ∀ name ∈ some "SwapLegsStruct", swap.isTuple name := by
    rintro name ⟨⟩
    apply List.mem_cons_of_mem _ List.mem_cons_self
  have accepted : (TypeExpr.ofString "tuple[2][]").check? "Swap.legs"
      = .ok (.array (.array .tuple)) := by
    decide +kernel
  obtain ⟨type, decode, encode, type_eq, decode_eq, encode_eq, decoded, encoded⟩ :=
    TypeExpr.hasType_conversions documented_swap known accepted
  have typed := decoded [] firstParameter hasType_firstParameter
  refine ⟨documented_swap, known, accepted, type, decode, encode, type_eq, decode_eq, encode_eq,
    typed, ?_⟩
  apply encoded [] (decode firstParameter) typed.hasType

end Library

end ContractBindings
