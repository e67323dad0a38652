import ContractBindings.Proofs.Types.Evaluation
import Mathlib.Tactic.Common

/-!
# Decoding undoes encoding

`Runtime.Inverse` lists what is expected of the library: for each kind of scalar values, for
tuples, for the arrays of both and for arrays of decoded values, the method that reads a decoded
value undoes the one that makes it.  Then decoding undoes encoding for all types, however deeply
arrays are nested (`TypeExpr.eval_decode_encode`): where an expression has a value of the shape of
the type, the conversion of its conversion has the same value.
-/

namespace ContractBindings

variable {α : Type}

/-- Which values represent scalars and tuples, and which are decoded values. -/
structure Kinds (α : Type) where
  scalar (s : Scalar) (x : Value α) : Prop
  tuple (x : Value α) : Prop
  decoded (y : Value α) : Prop

/-- The values that represent a shape: lists nested as deeply as its arrays. -/
def Kinds.Shaped (K : Kinds α) : Shape → Value α → Prop
  | .scalar s, x => K.scalar s x
  | .tuple, x => K.tuple x
  | .array element, x => ∃ items, x = .list items ∧ ∀ item ∈ items, K.Shaped element item

/-- A static method of decoded values makes one of a value, and a method of this gives the value
back. -/
def Runtime.Undoes (R : Runtime α) (K : Kinds α) (read : String) (types : List String)
    (make : String) (x : Value α) : Prop :=
  ∃ y, K.decoded y ∧ R.static? Provided.value make [x] [] = some y
    ∧ R.method? y read [] types = some x

/-- The methods of decoded values undo the static methods that make decoded values. -/
structure Runtime.Inverse (R : Runtime α) (K : Kinds α) : Prop where
  scalar {s x} (h : K.scalar s x) :
    R.Undoes K ("to" ++ s.decodedKind) [] ("from" ++ s.encodedKind) x
  scalarArray {s items} (h : ∀ x ∈ items, K.scalar s x) :
    R.Undoes K ("to" ++ s.decodedKind ++ "Array") [] ("from" ++ s.encodedKind ++ "Array")
      (.list items)
  tuple {x} (h : K.tuple x) : R.Undoes K "toTuple" [] "fromTuple" x
  tupleArray {items} (h : ∀ x ∈ items, K.tuple x) (name : String) :
    R.Undoes K "toTupleArray" [name] "fromTupleArray" (.list items)
  array {values} (h : ∀ y ∈ values, K.decoded y) :
    R.Undoes K "toArray" [] "fromArray" (.list values)

/-- Values that one function takes to values with a property, and another back, are taken so all
at once. -/
theorem exists_mapM_inverse {β γ : Type} {P : γ → Prop} {f : β → Option γ} {g : γ → Option β}
    {xs : List β} (h : ∀ x ∈ xs, ∃ y, P y ∧ f x = some y ∧ g y = some x) :
  ∃ ys, (∀ y ∈ ys, P y) ∧ xs.mapM f = some ys ∧ ys.mapM g = some xs
  := by
  induction xs with
  | nil => exact ⟨[], List.forall_mem_nil P, rfl, rfl⟩
  | cons x xs ih =>
      obtain ⟨⟨y, first, forth, back⟩, later⟩ := List.forall_mem_cons.mp h
      obtain ⟨ys, all, forthAll, backAll⟩ := ih later
      use y :: ys
      constructor
      · rw [List.forall_mem_cons]
        use first, all
      · simp [forth, back, forthAll, backAll]

namespace Shape

/-- A value of a shape is encoded as a decoded value, which is decoded as this value. -/
theorem exists_encoded {R : Runtime α} {K : Kinds α} (inverse : R.Inverse K)
    (structName : Option String) {shape : Shape} {x : Value α} (h : K.Shaped shape x) :
  ∃ y, K.decoded y ∧ shape.encoded? R x = some y ∧ shape.decoded? R structName y = some x
  := by
  induction shape generalizing x with
  | scalar s => apply inverse.scalar h
  | tuple => apply inverse.tuple h
  | array element ih =>
      obtain ⟨items, rfl, inside⟩ := h
      cases element with
      | scalar s => apply inverse.scalarArray inside
      | tuple => apply inverse.tupleArray inside
      | array inner =>
          -- The elements are decoded values in between, so they make up a decoded value, too.
          obtain ⟨values, decoded, encodeAll, decodeAll⟩ :=
            exists_mapM_inverse fun item member => ih (inside item member)
          obtain ⟨y, known, made, read⟩ := inverse.array decoded
          use y, known
          simp [encoded?, decoded?, Value.items?, encodeAll, decodeAll, made, read]

end Shape

/-- Decoding undoes encoding: for an accepted type and an expression whose value is of its shape,
the expression has the same value when it is converted in both directions. -/
theorem TypeExpr.eval_decode_encode {R : Runtime α} {K : Kinds α} (inverse : R.Inverse K)
    (structName : Option String) {context text : String} {shape : Shape}
    (accepted : (ofString text).check? context = .ok shape) {x : Value α}
    (shaped : K.Shaped shape x) :
  ∃ encode decode,
    TypeText.encode? structName text = .ok encode
    ∧ TypeText.decode? structName text = .ok decode
    ∧ ∀ (make : Maker α) (frame : Frame α) (v : Expr) (m m' : Memory α),
        v.eval R make frame m = some (x, m')
          → (decode (encode v)).eval R make frame m = some (x, m')
  := by
  have shape_eq := shape?_of_check? accepted
  refine ⟨shape.encode structName, shape.decode structName, ?_, ?_, ?_⟩
  · apply TypeText.encode?_of_shape? shape_eq
  · apply TypeText.decode?_of_shape? shape_eq
  · intro make frame v m m' value
    obtain ⟨y, -, encoded, decoded⟩ := Shape.exists_encoded inverse structName shaped
    rw [Shape.eval_decode, Shape.eval_encode, bind_assoc, Run.bind_of_eq_some value, encoded,
      Run.ofOption_some, pure_bind, decoded]
    rfl

/-! ## A library that remembers how its values were made -/

/-- A decoded value: the static method that made it, and of what. -/
inductive Made where
  | by (method : String) (argument : Value Made)

namespace Library

/-- The kinds that decoded values are read as, each with a kind that they are made from. -/
def kinds : List (String × String) :=
  [("Address", "Address"), ("Boolean", "Boolean"), ("String", "String"), ("Bytes", "Bytes"),
    ("Bytes", "FixedBytes"), ("BigInt", "UnsignedBigInt"), ("BigInt", "SignedBigInt")]

theorem mem_kinds (s : Scalar) :
  (s.decodedKind, s.encodedKind) ∈ kinds
  := by
  cases s <;> simp [Scalar.decodedKind, Scalar.encodedKind, kinds]

/-- The methods of decoded values, each with a static method that it undoes. -/
def inverses : List (String × String) :=
  kinds.map (fun (read, made) => ("to" ++ read, "from" ++ made))
    ++ kinds.map (fun (read, made) => ("to" ++ read ++ "Array", "from" ++ made ++ "Array"))
    ++ [("toTuple", "fromTuple"), ("toTupleArray", "fromTupleArray"), ("toArray", "fromArray")]

/-- The library with these methods. -/
def remembering : Runtime Made where
  class? _ := none
  method? receiver method _ _ :=
    match receiver with
    | .given (.by made argument) => if inverses.contains (method, made) then some argument else none
    | _ => none
  static? owner method arguments _ :=
    match arguments with
    | [argument] => if owner = Provided.value then some (.given (.by method argument)) else none
    | _ => none
  answer? _ := none

/-- Integers are numbers, booleans are truth values and other scalars are texts; tuples are
objects. -/
def plainKinds : Kinds Made where
  scalar s x :=
    match s, x with
    | .bool, .truth _ | .uint _, .number _ | .int _, .number _ => True
    | .address, .text _ | .string, .text _ | .bytes, .text _ | .fixedBytes _, .text _ => True
    | _, _ => False
  tuple x := ∃ place, x = .object place
  decoded y := ∃ made, y = .given made

theorem undoes_remembering {read make : String} (h : (read, make) ∈ inverses)
    (types : List String) (x : Value Made) :
  remembering.Undoes plainKinds read types make x
  := by
  refine ⟨.given (.by make x), ⟨_, rfl⟩, rfl, ?_⟩
  apply if_pos (List.contains_iff_mem.mpr h)

theorem inverse_remembering :
  remembering.Inverse plainKinds
  := by
  constructor
  · intro s x _
    apply undoes_remembering
    simp only [inverses, List.mem_append, List.mem_map]
    left
    left
    exact ⟨_, mem_kinds s, rfl⟩
  · intro s items _
    apply undoes_remembering
    simp only [inverses, List.mem_append, List.mem_map]
    left
    right
    exact ⟨_, mem_kinds s, rfl⟩
  · intro x _
    apply undoes_remembering
    simp [inverses]
  · intro items _ name
    apply undoes_remembering
    simp [inverses]
  · intro values _
    apply undoes_remembering
    simp [inverses]

/-- Two legs in one list and none in another. -/
def legs : Value Made :=
  .list [.list [.object 0, .object 1], .list []]

/-- A local that holds the legs. -/
def legsFrame : Frame Made :=
  ⟨.nothing, [("legs", legs)]⟩

theorem eval_decode_encode_legs :
  remembering.Inverse plainKinds
  ∧ (TypeExpr.ofString "tuple[2][]").check? "Swap.legs" = .ok (.array (.array .tuple))
  ∧ plainKinds.Shaped (.array (.array .tuple)) legs
  ∧ ∃ encode decode,
    TypeText.encode? (some "SwapLegsStruct") "tuple[2][]" = .ok encode
    ∧ TypeText.decode? (some "SwapLegsStruct") "tuple[2][]" = .ok decode
    ∧ (decode (encode (.name "legs"))).eval remembering Runtime.makeNothing legsFrame {}
      = some (legs, {})
  := by
  have accepted : (TypeExpr.ofString "tuple[2][]").check? "Swap.legs"
      = .ok (.array (.array .tuple)) := by
    decide +kernel
  have shaped : plainKinds.Shaped (.array (.array .tuple)) legs := by
    refine ⟨_, rfl, ?_⟩
    simp only [List.forall_mem_cons]
    refine ⟨⟨_, rfl, ?_⟩, ⟨_, rfl, List.forall_mem_nil _⟩, List.forall_mem_nil _⟩
    simp only [List.forall_mem_cons]
    exact ⟨⟨0, rfl⟩, ⟨1, rfl⟩, List.forall_mem_nil _⟩
  obtain ⟨encode, decode, encode_eq, decode_eq, undone⟩ :=
    TypeExpr.eval_decode_encode inverse_remembering (some "SwapLegsStruct") accepted shaped
  refine ⟨inverse_remembering, accepted, shaped, encode, decode, encode_eq, decode_eq, ?_⟩
  apply undone
  rfl

end Library

end ContractBindings
