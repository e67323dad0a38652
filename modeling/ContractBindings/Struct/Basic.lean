import ContractBindings.Code.Declaration
import ContractBindings.Name.Capitalized
import ContractBindings.Slot
import ContractBindings.Source
import ContractBindings.Types.Conversion

/-!
# Structs

A struct is the class that stands for one occurrence of a tuple.  Its name is a stem, which
the class or the function in which the tuple occurs provides, followed by the capitalized
name of the field that holds the tuple and the ending `Struct`.  Without this ending the same
text is the stem of the tuples among the components.  Each component has a getter, which
reads the position of the component.

`Slot.getter` is the getter of a slot, `Slot.structs` the struct of a slot followed by those
of the tuples inside, each before its own components, and nothing for a slot without tuples.
-/

namespace ContractBindings

namespace Struct

/-- What the tuples inside a field are named after. -/
def innerStem (stem field : String) : String :=
  stem ++ Name.capitalize field

/-- The name of the struct of a field. -/
def className (stem field : String) : String :=
  innerStem stem field ++ "Struct"

end Struct

namespace Slot

/-- The name of the struct of a slot, for a tuple or arrays of tuples. -/
def structName? (stem : String) (s : Slot) : Option String :=
  if s.shape.isTuple then some (Struct.className stem s.name) else none

/-- The type that represents the value of a slot. -/
def codeType (stem : String) (s : Slot) : String :=
  s.shape.codeType (s.structName? stem)

/-- The conversion of the decoded value of a slot. -/
def decode (stem : String) (s : Slot) (v : Expr) : Expr :=
  s.shape.decode (s.structName? stem) v

/-- The conversion of the represented value of a slot for encoding. -/
def encode (stem : String) (s : Slot) (v : Expr) : Expr :=
  s.shape.encode (s.structName? stem) v

/-- The getter of a slot at a position of a source. -/
def getter (source : Source) (stem : String) (position : Int) (s : Slot) : Method where
  name := s.name
  type := some (s.codeType stem)
  body := [.give (s.decode stem (source.valueAt position))]
  kind := .getter

/-- The getters of slots that stand side by side. -/
def getters (source : Source) (stem : String) (slots : List Slot) : List Method :=
  slots.mapIdx fun position s => s.getter source stem position

/-- Getters are called like their slots. -/
theorem map_name_getters (source : Source) (stem : String) (slots : List Slot) :
  (getters source stem slots).map (·.name) = slots.map (·.name)
  := by
  apply List.ext_getElem <;> simp [getters, getter]

end Slot

/-- The struct of a field with the given components. -/
def Struct.classDef (stem field : String) (components : List Slot) : ClassDef where
  name := className stem field
  base := some Provided.tuple
  methods := Slot.getters .component (innerStem stem field) components

namespace Slot

mutual

/-- The structs of the tuples in a slot, each before those inside. -/
def structs (stem : String) : Slot → List ClassDef
  | ⟨name, _, _, shape, fields⟩ =>
    if shape.isTuple then
      Struct.classDef stem name fields
        :: structsAll (Struct.innerStem stem name) fields
    else
      []

/-- The structs of the tuples in slots that stand side by side. -/
def structsAll (stem : String) : List Slot → List ClassDef
  | [] => []
  | s :: ss => s.structs stem ++ structsAll stem ss

end

theorem structsAll_eq_flatMap (stem : String) (slots : List Slot) :
  structsAll stem slots = slots.flatMap (structs stem)
  := by
  induction slots with
  | nil => rfl
  | cons s ss ih => rw [structsAll, List.flatMap_cons, ih]

mutual

/-- All structs in a slot of some kind have a property, if the fields of slots of this kind are of
this kind again and the structs of such slots have the property. -/
theorem forall_mem_structs {P : ClassDef → Prop} {Q : Slot → Prop}
    (fields : ∀ s, Q s → ∀ field ∈ s.fields, Q field)
    (struct : ∀ stem s, Q s → P (Struct.classDef stem s.name s.fields)) {stem : String} {s : Slot}
    (h : Q s) :
  ∀ c ∈ s.structs stem, P c
  := by
  have inside := fields s h
  have own := struct stem s h
  obtain ⟨name, type, indexed, shape, slots⟩ := s
  rw [structs]
  split
  · rw [List.forall_mem_cons]
    exact ⟨own, forall_mem_structsAll fields struct inside⟩
  · apply List.forall_mem_nil

/-- The same for slots that stand side by side. -/
theorem forall_mem_structsAll {P : ClassDef → Prop} {Q : Slot → Prop}
    (fields : ∀ s, Q s → ∀ field ∈ s.fields, Q field)
    (struct : ∀ stem s, Q s → P (Struct.classDef stem s.name s.fields)) {stem : String}
    {slots : List Slot} (h : ∀ s ∈ slots, Q s) :
  ∀ c ∈ structsAll stem slots, P c
  := by
  cases slots with
  | nil => apply List.forall_mem_nil
  | cons s ss =>
      rw [List.forall_mem_cons] at h
      rw [structsAll, List.forall_mem_append]
      exact ⟨forall_mem_structs fields struct h.1, forall_mem_structsAll fields struct h.2⟩

end

end Slot

/-- The struct of a field followed by the structs inside its components. -/
def Struct.classes (stem field : String) (components : List Slot) : List ClassDef :=
  classDef stem field components :: Slot.structsAll (innerStem stem field) components

end ContractBindings
