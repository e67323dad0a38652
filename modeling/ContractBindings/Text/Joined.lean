/-!
# Joined text

Texts put together by commas or by line breaks, and the indentation of a line.
-/

namespace ContractBindings.Text

/-- The texts with a comma between each two. -/
def commaSeparated (texts : List String) : String :=
  ", ".intercalate texts

@[simp]
theorem commaSeparated_singleton (text : String) :
  commaSeparated [text] = text
  := String.intercalate_singleton

theorem commaSeparated_cons_cons (text next : String) (rest : List String) :
  commaSeparated (text :: next :: rest) = text ++ ", " ++ commaSeparated (next :: rest)
  := by
  simp [commaSeparated, String.append_assoc]

/-- The lines as one text, with a line break between each two. -/
def joinLines (lines : List String) : String :=
  "\n".intercalate lines

/-- An indentation of the given depth. -/
def indentation (indent : String) (depth : Nat) : String :=
  String.join (List.replicate depth indent)

end ContractBindings.Text
