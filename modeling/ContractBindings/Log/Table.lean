/-!
# Tables

A table holds values under names, in the order in which the names were first entered.
-/

namespace ContractBindings

/-- Values under names. -/
abbrev Table (β : Type) :=
  List (String × β)

namespace Table

variable {β : Type} (table : Table β) (name : String)

/-- The names under which there are values. -/
def names : List String :=
  table.map (·.1)

/-- The value under a name, or a default when there is none. -/
def getD (default : β) : β :=
  (table.lookup name).getD default

/-- The table with the value under a name changed. -/
def modify (change : β → β) : Table β :=
  table.map fun (key, value) => (key, if key = name then change value else value)

/-- The table with a value under a name, unless there is one already. -/
def setDefault (value : β) : Table β :=
  if name ∈ table.names then table else table ++ [(name, value)]

/-- The table with a value under a name, in place of the one that is there. -/
def put (value : β) : Table β :=
  if name ∈ table.names then table.modify name fun _ => value else table ++ [(name, value)]

/-- The entries of a table in alphabetical order, by code point. -/
def sorted : Table β :=
  table.mergeSort fun a b => decide (a.1 ≤ b.1)

end Table

end ContractBindings
