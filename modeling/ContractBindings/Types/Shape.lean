import ContractBindings.Fault
import ContractBindings.Types.Expression
import ContractBindings.Types.Scalar

/-!
# Shapes

The shape of a type is all that conversions depend on: a scalar, a tuple, or an array of a
shape.  A written type has a shape when the name in front of its brackets is that of a scalar
or `tuple`, and `shape?` is the shape or the fault that names this name.

`check?` is stricter and accepts the types that an interface may declare: no length in the
brackets may be zero.  Its fault names the part of the type that is refused, from the
outside, and the context in which the type stands.
-/

namespace ContractBindings

/-- What conversions depend on. -/
inductive Shape where
  | scalar (s : Scalar)
  | tuple
  | array (element : Shape)
deriving DecidableEq, Repr

namespace Shape

/-- The name of the tuple type. -/
def tupleName : String := "tuple"

/-- The shape that a name without brackets stands for. -/
def ofName? (name : String) : Option Shape :=
  if name = tupleName then some tuple else (Scalar.ofName? name).map scalar

/-- No scalar type has the name of the tuple type. -/
theorem ofName?_name (s : Scalar) :
  ofName? s.name = some (scalar s)
  := by
  have named : ∀ s ∈ Scalar.all, s.name ≠ tupleName := by
    decide +kernel
  rw [ofName?, if_neg (named s (Scalar.mem_all s)), Scalar.ofName?_name, Option.map_some]

/-- Whether the shape is a tuple or a nesting of arrays of tuples. -/
def isTuple : Shape → Bool
  | scalar _ => false
  | tuple => true
  | array element => element.isTuple

end Shape

namespace TypeExpr

/-- Whether the name in front of the brackets is that of the tuple type. -/
def isTuple (t : TypeExpr) : Bool :=
  t.base == Shape.tupleName

/-- Whether brackets state a length, and it is zero. -/
def lengthIsZero (length : String) : Bool :=
  length ≠ "" && length.toList.all (· == '0')

/-- The shape of a written type. -/
def shape? : TypeExpr → Except Fault Shape
  | name text =>
    match Shape.ofName? text with
    | some shape => .ok shape
    | none => .error (.unsupportedType text "")
  | array _ _ element => return .array (← element.shape?)

/-- The shape of a type that an interface may declare. -/
def check? (context : String) : TypeExpr → Except Fault Shape
  | name text =>
    match Shape.ofName? text with
    | some shape => .ok shape
    | none => .error (.unsupportedType text context)
  | array text length element =>
    if lengthIsZero length then
      .error (.unsupportedType text context)
    else
      return .array (← element.check? context)

end TypeExpr

namespace Topic

/-- The names of types whose indexed values are recorded as a digest.  Arrays are, too. -/
def hashedNames : List String :=
  ["bytes", "string", Shape.tupleName]

/-- The scalar type of a digest. -/
def digest : Scalar := .fixedBytes 31

/-- The type under which the value of an indexed input is recorded: a digest for a type that
has no fixed size, else the declared type. -/
def typeOf (type : String) : String :=
  if type ∈ hashedNames ∨ (TypeExpr.ofString type).isArray then digest.name else type

/-- Whether the value of an indexed input is recorded as a digest. -/
def isHashed (type : String) : Bool :=
  typeOf type ≠ type

end Topic

end ContractBindings
