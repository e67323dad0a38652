import ContractBindings.Code.Expr
import ContractBindings.Types.Shape

/-!
# Conversions

How the values of a type are represented in the bindings, and the expressions that convert a
decoded value to this representation (`decode`) and back to a value that can be encoded
(`encode`).  All three go by the shape of the type.  Arrays of scalars and of tuples have
conversions of their own, and arrays of arrays are converted element by element.

A tuple is represented by the class that was made for it.  Without such a class the base
class of structs stands in.
-/

namespace ContractBindings

/-- The class made for a tuple, an empty name counting as none. -/
def structClass? (structName : Option String) : Option String :=
  structName.filter (· ≠ "")

/-- The class that represents a tuple. -/
def tupleClass (structName : Option String) : String :=
  (structClass? structName).getD Provided.tuple

namespace Shape

/-- The local that holds an element of an array while it is converted. -/
def elementName : String := "value"

/-- The type that represents a shape in the bindings. -/
def codeType (structName : Option String) : Shape → String
  | scalar s => s.codeType
  | tuple => tupleClass structName
  | array element => "Array<" ++ element.codeType structName ++ ">"

/-- The conversion of a decoded value to its representation. -/
def decode (structName : Option String) : Shape → Expr → Expr
  | scalar s, v => .call v ("to" ++ s.decodedKind) [] []
  | tuple, v =>
    match structClass? structName with
    | some name => .cast (.call v "toTuple" [] []) name
    | none => .call v "toTuple" [] []
  | array (scalar s), v => .call v ("to" ++ s.decodedKind ++ "Array") [] []
  | array tuple, v => .call v "toTupleArray" [] [tupleClass structName]
  | array (array element), v =>
    let type := (array element).codeType structName
    let body := (array element).decode structName (.name elementName)
    .call (.call v "toArray" [] []) "map"
      [.lambda ⟨elementName, Provided.value⟩ type body] [type]

/-- The conversion of a representation to a value that can be encoded. -/
def encode (structName : Option String) : Shape → Expr → Expr
  | scalar s, v => .staticCall Provided.value ("from" ++ s.encodedKind) [v] []
  | tuple, v => .staticCall Provided.value "fromTuple" [v] []
  | array (scalar s), v =>
    .staticCall Provided.value ("from" ++ s.encodedKind ++ "Array") [v] []
  | array tuple, v => .staticCall Provided.value "fromTupleArray" [v] []
  | array (array element), v =>
    let type := (array element).codeType structName
    let body := (array element).encode structName (.name elementName)
    .staticCall Provided.value "fromArray"
      [.call v "map" [.lambda ⟨elementName, type⟩ Provided.value body] [Provided.value]] []

end Shape

end ContractBindings
