import ContractBindings.Code.Provided

/-!
# Scalar types

The types of an interface that hold a single value: addresses, booleans, texts, bytes of any
or of a fixed size, and integers of each width.  For each the module states its name in an
interface, the type that stands for it in the bindings, and the kinds that the conversions
from and to a decoded value are named by.
-/

namespace ContractBindings

/-- A type that holds a single value.  `fixedBytes n` is of `n + 1` bytes, and an integer
type has a width of `8 * (n + 1)` bits, or none stated, which means 256. -/
inductive Scalar where
  | address
  | bool
  | string
  | bytes
  | fixedBytes (n : Fin 32)
  | uint (n : Option (Fin 32))
  | int (n : Option (Fin 32))
deriving DecidableEq, Repr

namespace Scalar

/-- The width in bits as it is written after the name of an integer type. -/
def width : Option (Fin 32) → String
  | none => ""
  | some n => toString (8 * (n.val + 1))

/-- The name of a type in an interface. -/
def name : Scalar → String
  | address => "address"
  | bool => "bool"
  | string => "string"
  | bytes => "bytes"
  | fixedBytes n => "bytes" ++ toString (n.val + 1)
  | uint n => "uint" ++ width n
  | int n => "int" ++ width n

/-- The type in the bindings.  Every width of integers has the same one. -/
def codeType : Scalar → String
  | address => Provided.address
  | bool => "boolean"
  | string => "string"
  | bytes => Provided.bytes
  | fixedBytes _ => Provided.bytes
  | uint _ => Provided.integer
  | int _ => Provided.integer

/-- The kind in the name of the conversion from a decoded value. -/
def decodedKind : Scalar → String
  | address => "Address"
  | bool => "Boolean"
  | string => "String"
  | bytes => "Bytes"
  | fixedBytes _ => "Bytes"
  | uint _ => "BigInt"
  | int _ => "BigInt"

/-- The kind in the name of the conversion to a value that can be encoded. -/
def encodedKind : Scalar → String
  | address => "Address"
  | bool => "Boolean"
  | string => "String"
  | bytes => "Bytes"
  | fixedBytes _ => "FixedBytes"
  | uint _ => "UnsignedBigInt"
  | int _ => "SignedBigInt"

/-- The sizes and widths that are written out. -/
def sizes : List (Fin 32) :=
  List.finRange 32

/-- Every scalar type. -/
def all : List Scalar :=
  [address, bool, string, bytes, uint none, int none]
    ++ sizes.map fixedBytes ++ sizes.map (uint ∘ some) ++ sizes.map (int ∘ some)

theorem mem_all (s : Scalar) :
  s ∈ all
  := by
  cases s with
  | uint n => cases n <;> simp [all, sizes]
  | int n => cases n <;> simp [all, sizes]
  | fixedBytes n => simp [all, sizes]
  | _ => simp [all]

/-- The scalar type of that name. -/
def ofName? (name : String) : Option Scalar :=
  all.find? (·.name == name)

/-- No two scalar types have one name. -/
theorem ofName?_name (s : Scalar) :
  ofName? s.name = some s
  := by
  have named : ∀ s ∈ all, ofName? s.name = some s := by
    decide +kernel
  exact named s (mem_all s)

end Scalar

end ContractBindings
