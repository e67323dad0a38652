import ContractBindings.Struct.Basic

/-!
# Occurrences of tuples

An occurrence of a tuple is given by a stem, which the class or the function around it
provides, and by the path of names that leads from there to the field that holds the tuple.
It is spelled as the stem followed by the capitalized names of the path.  The occurrences in
a slot are those of its tuple and of the tuples among its fields, a tuple before those inside,
and `map_name_structsAll` says that the structs of slots are named by the spelling of the
occurrences in them, one for one and in order.
-/

namespace ContractBindings

/-- A tuple by the names that lead to it. -/
structure Occurrence where
  stem : String
  path : List String
deriving DecidableEq, Repr

/-- The stem followed by the capitalized names of the path. -/
def Occurrence.spelled (o : Occurrence) : String :=
  o.path.foldl Struct.innerStem o.stem

namespace Struct

/-- The ending of the name of a struct. -/
def ending : String := "Struct"

/-- A field below a path is spelled like its stem. -/
@[simp]
theorem spelled_append_singleton (stem : String) (path : List String) (field : String) :
  Occurrence.spelled ⟨stem, path ++ [field]⟩
    = innerStem (Occurrence.spelled ⟨stem, path⟩) field
  := by
  simp [Occurrence.spelled]

/-- The name of the struct of a field is the spelling of the occurrence and the ending. -/
theorem className_spelled (stem : String) (path : List String) (field : String) :
  className (Occurrence.spelled ⟨stem, path⟩) field
    = Occurrence.spelled ⟨stem, path ++ [field]⟩ ++ ending
  := by
  rw [spelled_append_singleton]
  rfl

end Struct

namespace Slot

mutual

/-- The occurrences of tuples in a slot to which a path leads. -/
def occurrences (stem : String) (path : List String) : Slot → List Occurrence
  | ⟨name, _, _, shape, fields⟩ =>
    if shape.isTuple then
      ⟨stem, path ++ [name]⟩ :: occurrencesAll stem (path ++ [name]) fields
    else
      []

/-- The occurrences of tuples in slots that stand side by side. -/
def occurrencesAll (stem : String) (path : List String) : List Slot → List Occurrence
  | [] => []
  | s :: ss => s.occurrences stem path ++ occurrencesAll stem path ss

end

mutual

/-- The structs of a slot are named by the occurrences in it. -/
theorem map_name_structs (stem : String) (path : List String) (s : Slot) :
  (s.structs (Occurrence.spelled ⟨stem, path⟩)).map (·.name)
    = (s.occurrences stem path).map fun o => o.spelled ++ Struct.ending
  := by
  obtain ⟨name, type, indexed, shape, fields⟩ := s
  rw [structs, occurrences]
  split
  · rw [List.map_cons, List.map_cons, ← Struct.spelled_append_singleton,
      map_name_structsAll stem (path ++ [name]) fields, ← Struct.className_spelled]
    rfl
  · rfl

/-- The structs of slots are named by the occurrences in them. -/
theorem map_name_structsAll (stem : String) (path : List String) (slots : List Slot) :
  (structsAll (Occurrence.spelled ⟨stem, path⟩) slots).map (·.name)
    = (occurrencesAll stem path slots).map fun o => o.spelled ++ Struct.ending
  := by
  cases slots with
  | nil => rfl
  | cons s ss =>
      rw [structsAll, occurrencesAll, List.map_append, List.map_append,
        map_name_structs stem path s, map_name_structsAll stem path ss]

end

end Slot

end ContractBindings
