/-!
# Type expressions

A type of an interface is written as a name followed by array brackets, which may hold a
length: `uint8[2][]` is an array of arrays of two `uint8`.  `TypeExpr.ofString` takes a
written type apart, the last brackets first, and keeps at each step the text that is taken
apart.

Brackets are read at the end of a text, or before a line break that ends it.  What stands
before them is the element type; it has to be there and is on a single line.  A text without
such brackets is a name as a whole.
-/

namespace ContractBindings

/-- A written type: a name, or brackets after an element type.  Each holds its whole text. -/
inductive TypeExpr where
  | name (text : String)
  | array (text length : String) (element : TypeExpr)
deriving DecidableEq, Repr

namespace TypeExpr

/-- The characters, last one first, without a line break that ends the text. -/
def closing : List Char → List Char
  | '\n' :: rest => rest
  | rest => rest

/-- The last brackets of a text, whose characters come last one first: the digits between
them and what stands before them. -/
def brackets? (reversed : List Char) : Option (List Char × List Char) :=
  match closing reversed with
  | ']' :: rest =>
    match rest.dropWhile Char.isDigit with
    | '[' :: before =>
      if before = [] ∨ '\n' ∈ before then none else some (rest.takeWhile Char.isDigit, before)
    | _ => none
  | _ => none

theorem length_dropWhile_le (p : Char → Bool) (cs : List Char) :
  (cs.dropWhile p).length ≤ cs.length
  := (List.dropWhile_sublist p).length_le

theorem length_closing_le (cs : List Char) :
  (closing cs).length ≤ cs.length
  := by
  unfold closing
  split <;> simp

/-- What stands before brackets is shorter than the text. -/
theorem length_lt_of_brackets? {reversed digits before : List Char}
    (h : brackets? reversed = some (digits, before)) :
  before.length < reversed.length
  := by
  unfold brackets? at h
  have hc := length_closing_le reversed
  split at h
  · next rest heq =>
    have hd := length_dropWhile_le Char.isDigit rest
    rw [heq, List.length_cons] at hc
    split at h
    · next before' heq' =>
      rw [heq', List.length_cons] at hd
      split at h
      · cases h
      · obtain ⟨-, rfl⟩ := Prod.mk.inj (Option.some.inj h)
        omega
    · cases h
  · cases h

/-- The written type whose characters come last one first. -/
def ofReversed (reversed : List Char) : TypeExpr :=
  match _h : brackets? reversed with
  | none => name (String.ofList reversed.reverse)
  | some (digits, before) =>
    array (String.ofList reversed.reverse) (String.ofList digits.reverse) (ofReversed before)
termination_by reversed.length
decreasing_by exact length_lt_of_brackets? _h

/-- The written type taken apart. -/
def ofString (text : String) : TypeExpr :=
  ofReversed text.toList.reverse

/-- The whole text of a written type. -/
def text : TypeExpr → String
  | name text => text
  | array text _ _ => text

/-- Nothing is lost of a written type. -/
@[simp]
theorem text_ofString (text : String) :
  (ofString text).text = text
  := by
  rw [ofString, ofReversed]
  split <;> simp [TypeExpr.text]

/-- Whether a written type ends in brackets. -/
def isArray : TypeExpr → Bool
  | name _ => false
  | array _ _ _ => true

/-- The name in front of all brackets. -/
def base : TypeExpr → String
  | name text => text
  | array _ _ element => element.base

end TypeExpr

end ContractBindings
