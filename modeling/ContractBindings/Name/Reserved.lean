/-!
# Reserved names

The words of the language of the bindings that no member, getter or parameter may be named
by, and the escape that keeps names apart from them: an underscore after the word.
-/

namespace ContractBindings.Name

/-- The words that name nothing but themselves. -/
def reserved : List String :=
  ["await", "break", "case", "catch", "class", "const", "continue", "debugger", "delete",
    "do", "else", "enum", "export", "extends", "false", "finally", "for", "function", "if",
    "implements", "import", "in", "instanceof", "interface", "let", "new", "null", "package",
    "private", "protected", "public", "return", "static", "super", "switch", "this", "throw",
    "true", "try", "typeof", "var", "void", "while", "with", "yield"]

/-- The name, followed by an underscore when it is reserved or among the names `taken` that
the place of use already declares. -/
def escape (taken : List String) (name : String) : String :=
  if name ∈ reserved ∨ name ∈ taken then name ++ "_" else name

end ContractBindings.Name
