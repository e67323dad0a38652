import ContractBindings.Number.Basic

/-!
# Decoded entries

`Json` is a decoded JSON value, the form in which an interface is handed in.  A number that is
written with a point or an exponent is known to double precision, any other is a whole number
of any size, and an object is the list of its fields.

`holds` says which values count as given and true: all but null, false, zero and what is
empty.  `word` is the spelling by which a message names a value that is plain.  `field?`,
`textOf` and `flag` look up a field of an object.
-/

namespace ContractBindings

/-- A decoded JSON value. -/
inductive Json where
  | null
  | bool (value : Bool)
  | number (value : Number)
  | text (value : String)
  | list (items : List Json)
  | object (fields : List (String × Json))
deriving Inhabited

namespace Json

/-- What a value is, its contents apart. -/
inductive Kind where
  | null
  | bool
  | whole
  | decimal
  | text
  | list
  | object
deriving DecidableEq, Repr

/-- The word by which a message names a kind of values. -/
def Kind.word : Kind → String
  | null => "NoneType"
  | bool => "bool"
  | whole => "int"
  | decimal => "float"
  | text => "str"
  | list => "list"
  | object => "dict"

/-- Whether values of a kind have no parts, so that they can be looked up among words. -/
def Kind.isPlain : Kind → Bool
  | list => false
  | object => false
  | _ => true

/-- The kind of a value. -/
def kind : Json → Kind
  | null => .null
  | bool _ => .bool
  | number (.whole _) => .whole
  | number (.decimal _) => .decimal
  | text _ => .text
  | list _ => .list
  | object _ => .object

/-- Whether a value counts as given and true. -/
def holds : Json → Bool
  | null => false
  | bool value => value
  | number value => !value.isZero
  | text value => value ≠ ""
  | list items => !items.isEmpty
  | object fields => !fields.isEmpty

/-- The spelling by which a message names a plain value.  Of a list or an object it gives the
brackets, without what they hold. -/
def word : Json → String
  | null => "None"
  | bool true => "True"
  | bool false => "False"
  | number value => value.text
  | text value => value
  | list _ => "[]"
  | object _ => "\x7b\x7d"

/-- The value of the first field of that name. -/
def field? (name : String) (fields : List (String × Json)) : Option Json :=
  fields.lookup name

/-- The text under a field, empty when there is none. -/
def textOf (name : String) (fields : List (String × Json)) : String :=
  match field? name fields with
  | some (text value) => value
  | _ => ""

/-- Whether a field is there and holds. -/
def flag (name : String) (fields : List (String × Json)) : Bool :=
  match field? name fields with
  | some value => value.holds
  | none => false

end Json

end ContractBindings
