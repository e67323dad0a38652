import ContractBindings.Text.Uppercase

/-!
# Capitalized names

`capitalize name` is `name` with its first character in upper case and the rest kept.
-/

namespace ContractBindings.Name

/-- The name with its first character in upper case. -/
def capitalize (name : String) : String :=
  match name.toList with
  | [] => ""
  | c :: rest => String.ofList (Text.uppercase c ++ rest)

end ContractBindings.Name
