/-!
# Quoted text

`quoted s` is the literal that stands for the string `s` in a module: `s` between single
quotes, escaped.  Two passes over `s` escape it: the first writes each backslash twice, and the
second writes a backslash before each quote.  The second pass finds no quote that the first has
made, nor does it change a backslash, so that together they write a backslash before each quote
and each backslash.
-/

namespace ContractBindings.Text

/-- The text with each occurrence of a character replaced. -/
def replaced (old : Char) (new text : List Char) : List Char :=
  text.flatMap fun c => if c = old then new else [c]

/-- The written form of the characters of a literal: backslashes are replaced first, and then
quotes. -/
def escaped (text : List Char) : List Char :=
  replaced '\x27' ['\\', '\x27'] (replaced '\\' ['\\', '\\'] text)

/-- The literal of a string. -/
def quoted (text : String) : String :=
  "'" ++ String.ofList (escaped text.toList) ++ "'"

/-! ## Escaping in a single pass -/

/-- The written form of one character of a literal. -/
def escapeChar (c : Char) : List Char :=
  if c = '\\' ∨ c = '\x27' then ['\\', c] else [c]

/-- The written forms of characters, one after the other. -/
def escapeChars (text : List Char) : List Char :=
  text.flatMap escapeChar

@[simp]
theorem escapeChars_cons (c : Char) (text : List Char) :
  escapeChars (c :: text) = escapeChar c ++ escapeChars text
  := rfl

/-- The two passes write each character by itself. -/
theorem escaped_eq_escapeChars (text : List Char) :
  escaped text = escapeChars text
  := by
  rw [escaped, replaced, replaced, List.flatMap_assoc, escapeChars]
  congr 1
  funext c
  by_cases backslash : c = '\\'
  · simp [backslash, escapeChar]
  · by_cases quote : c = '\x27'
    · simp [quote, escapeChar]
    · simp [backslash, quote, escapeChar]

theorem toList_quoted (text : String) :
  (quoted text).toList = '\x27' :: escapeChars text.toList ++ ['\x27']
  := by
  simp [quoted, escaped_eq_escapeChars]

end ContractBindings.Text
