import ContractBindings.Types.Conversion

/-!
# Types as texts

What is asked of a type is asked of its text.  Each question takes the last brackets off the text
by itself, goes on with what stands before them, and looks up what is left when there are no
brackets any more.  The conversions look one step further: an array is converted in a way of its
own when its elements are tuples or scalars, and element by element when they are arrays.
-/

namespace ContractBindings.TypeText

/-- What stands before the last brackets of a text, and the digits between them. -/
def suffix? (text : String) : Option (String × String) :=
  (TypeExpr.brackets? text.toList.reverse).map fun (digits, before) =>
    (String.ofList before.reverse, String.ofList digits.reverse)

/-- What stands before brackets is shorter than the text. -/
theorem length_lt_of_suffix? {text element digits : String}
    (h : suffix? text = some (element, digits)) :
  element.toList.length < text.toList.length
  := by
  obtain ⟨⟨inside, before⟩, found, taken⟩ := Option.map_eq_some_iff.mp h
  obtain ⟨rfl, -⟩ := Prod.mk.inj taken
  have shorter := TypeExpr.length_lt_of_brackets? found
  simpa using shorter

/-- Whether a text ends in brackets. -/
def isArray (text : String) : Bool :=
  (suffix? text).isSome

/-- The text of the element type, for an array. -/
def element? (text : String) : Except Fault String :=
  match suffix? text with
  | some (element, _) => .ok element
  | none => .error (.unsupportedType text "")

/-- Whether a text is that of a tuple or a nesting of arrays of tuples. -/
def isTuple (text : String) : Bool :=
  match _h : suffix? text with
  | some (element, _) => isTuple element
  | none => text == Shape.tupleName
termination_by text.toList.length
decreasing_by exact length_lt_of_suffix? _h

/-- Whether an interface may declare a type, with the fault that refuses it otherwise. -/
def check? (context text : String) : Except Fault Unit :=
  match _h : suffix? text with
  | some (element, digits) =>
    if TypeExpr.lengthIsZero digits then
      .error (.unsupportedType text context)
    else
      check? context element
  | none =>
    if text ≠ Shape.tupleName ∧ (Scalar.ofName? text).isNone then
      .error (.unsupportedType text context)
    else
      .ok ()
termination_by text.toList.length
decreasing_by exact length_lt_of_suffix? _h

/-- The scalar type of that name. -/
def scalar? (text : String) : Except Fault Scalar :=
  match Scalar.ofName? text with
  | some s => .ok s
  | none => .error (.unsupportedType text "")

section

variable (structName : Option String)

/-- The type that represents a type in the bindings. -/
def codeType? (text : String) : Except Fault String :=
  match _h : suffix? text with
  | some (element, _) => return "Array<" ++ (← codeType? element) ++ ">"
  | none =>
    if text = Shape.tupleName then
      .ok (tupleClass structName)
    else
      return (← scalar? text).codeType
termination_by text.toList.length
decreasing_by exact length_lt_of_suffix? _h

/-- The conversion of a decoded value to its representation. -/
def decode? (text : String) : Except Fault (Expr → Expr) :=
  match _h : suffix? text with
  | some (element, _) =>
    if isArray element then do
      let type ← codeType? structName element
      let convert ← decode? element
      return fun v =>
        .call (.call v "toArray" [] []) "map"
          [.lambda ⟨Shape.elementName, Provided.value⟩ type (convert (.name Shape.elementName))]
          [type]
    else if element = Shape.tupleName then
      .ok fun v => .call v "toTupleArray" [] [tupleClass structName]
    else do
      let s ← scalar? element
      return fun v => .call v ("to" ++ s.decodedKind ++ "Array") [] []
  | none =>
    if text = Shape.tupleName then
      match structClass? structName with
      | some name => .ok fun v => .cast (.call v "toTuple" [] []) name
      | none => .ok fun v => .call v "toTuple" [] []
    else do
      let s ← scalar? text
      return fun v => .call v ("to" ++ s.decodedKind) [] []
termination_by text.toList.length
decreasing_by exact length_lt_of_suffix? _h

/-- The conversion of a representation to a value that can be encoded. -/
def encode? (text : String) : Except Fault (Expr → Expr) :=
  match _h : suffix? text with
  | some (element, _) =>
    if isArray element then do
      let type ← codeType? structName element
      let convert ← encode? element
      return fun v =>
        .staticCall Provided.value "fromArray"
          [.call v "map"
            [.lambda ⟨Shape.elementName, type⟩ Provided.value (convert (.name Shape.elementName))]
            [Provided.value]] []
    else if element = Shape.tupleName then
      .ok fun v => .staticCall Provided.value "fromTupleArray" [v] []
    else do
      let s ← scalar? element
      return fun v => .staticCall Provided.value ("from" ++ s.encodedKind ++ "Array") [v] []
  | none =>
    if text = Shape.tupleName then
      .ok fun v => .staticCall Provided.value "fromTuple" [v] []
    else do
      let s ← scalar? text
      return fun v => .staticCall Provided.value ("from" ++ s.encodedKind) [v] []
termination_by text.toList.length
decreasing_by exact length_lt_of_suffix? _h

end

end ContractBindings.TypeText
