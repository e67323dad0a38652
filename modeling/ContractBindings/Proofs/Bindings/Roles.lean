import ContractBindings.Proofs.Bindings.ClassNames
import ContractBindings.Proofs.Section.Unchecked
import ContractBindings.Proofs.Struct.Nested

/-!
# Roles of classes

The classes of a call or of a function have three roles: its own classes, which are that of the call
with its two holders, or the result class; the structs of its inputs; and the structs of its
outputs.  Whatever names are declared, the own classes of a section have pairwise distinct names,
none of them that of a struct of the section, and no struct of an input is called like a struct of
an output of the same call or function.  For own classes end in words that no struct ends in, and
the names of structs of inputs and of outputs part after the name that they share.

`Interface.roles_of_bindings?` says this of the section of the contract, where the class of the
contract is one of the own classes, and of the section of the calls.
-/

namespace ContractBindings

open Text

/-- The classes of a call or of a function by their roles. -/
structure Roles where
  own : List ClassDef
  inputs : List ClassDef
  outputs : List ClassDef

/-- Own classes of a section and the roles of the others, with names that keep them apart. -/
structure Roles.Apart (own : List ClassDef) (rs : List Roles) : Prop where
  distinct : (own.map (·.name)).Nodup
  structs : ∀ c ∈ own, ∀ r ∈ rs, ∀ d ∈ r.inputs ++ r.outputs, c.name ≠ d.name
  sides : ∀ r ∈ rs, ∀ c ∈ r.inputs, ∀ d ∈ r.outputs, c.name ≠ d.name

/-- The roles of the classes of a call under its name. -/
structure Call.HasRoles (x : String × Call Parameter) (r : Roles) : Prop where
  own : r.own.map (·.name) = [x.1 ++ "Call", x.1 ++ "Call__Inputs", x.1 ++ "Call__Outputs"]
  inputs : List.Forall₂ (Struct.IsStructOf (x.1 ++ "Call__Inputs"))
    (Parameter.tuplesAll [] (Name.siblings "value" [] (x.2.inputs.map Parameter.label)) x.2.inputs)
    r.inputs
  outputs : List.Forall₂ (Struct.IsStructOf (x.1 ++ "Call__Outputs"))
    (Parameter.tuplesAll [] (Name.siblings "value" [] (x.2.outputs.map Parameter.label))
      x.2.outputs)
    r.outputs

/-- The roles of the classes of a function of a contract under its name. -/
structure Function.HasRoles (contract : String) (x : String × Function Parameter) (r : Roles) :
    Prop where
  own : r.own.map (·.name)
    = if x.2.outputs.length = 1 then [] else [contract ++ "__" ++ x.1 ++ "Result"]
  inputs : List.Forall₂ (Struct.IsStructOf (contract ++ "__" ++ x.1 ++ "Input__"))
    (Parameter.tuplesAll [] (Name.siblings "param" ["result"] (x.2.inputs.map Parameter.label))
      x.2.inputs)
    r.inputs
  outputs : List.Forall₂ (Struct.IsStructOf (contract ++ "__" ++ x.1 ++ "Result__"))
    (Parameter.tuplesAll [] x.2.valueNames x.2.outputs)
    r.outputs

/-! ## Names of structs -/

namespace Struct

/-- The structs of tuples are called after the stem and end in the word of structs. -/
theorem exists_name_eq {stem : String} {ts : List NestedTuple} {classes : List ClassDef}
    (h : List.Forall₂ (IsStructOf stem) ts classes) {c : ClassDef} (member : c ∈ classes) :
  ∃ path, c.name = stem ++ path ++ "Struct"
  := by
  obtain ⟨t, struct⟩ := exists_of_forall₂ h member
  use String.join (t.path.map Name.capitalize)
  apply struct.name

/-- Structs are called differently when their stems part after a text that they share. -/
theorem name_ne_name {stem x y : String} (part : Text.Part x y) {ts us : List NestedTuple}
    {inputs outputs : List ClassDef} (h : List.Forall₂ (IsStructOf (stem ++ x)) ts inputs)
    (h' : List.Forall₂ (IsStructOf (stem ++ y)) us outputs) :
  ∀ c ∈ inputs, ∀ d ∈ outputs, c.name ≠ d.name
  := by
  intro c input d output
  obtain ⟨path, called⟩ := exists_name_eq h input
  obtain ⟨path', called'⟩ := exists_name_eq h' output
  rw [called, called', String.append_assoc, String.append_assoc, String.append_assoc,
    String.append_assoc, Ne, String.append_right_inj]
  apply ne_of_part part

end Struct

/-! ## Roles under roots -/

/-- How classes are called after a root: the own classes by endings that are no endings of each
other nor of structs, and the structs after words for inputs and for outputs that part. -/
structure Scheme where
  endings : List String
  input : String
  output : String
  endings_apart : (endings ++ ["Struct"]).Pairwise Text.Apart
  part : Text.Part input output

/-- How the classes of a call are called after its name. -/
def Call.scheme : Scheme where
  endings := ["Call", "Call__Inputs", "Call__Outputs"]
  input := "Call__Inputs"
  output := "Call__Outputs"
  endings_apart := by decide
  part := by decide

/-- How the classes of a function are called after the names of the contract and of the function. -/
def Function.scheme : Scheme where
  endings := ["Result"]
  input := "Input__"
  output := "Result__"
  endings_apart := by decide
  part := by decide

namespace Roles

/-- Roles of classes that are called after a root. -/
structure Under (scheme : Scheme) (root : String) (r : Roles) : Prop where
  own : List.Sublist (r.own.map (·.name)) (scheme.endings.map (root ++ ·))
  inputs : ∃ ts, List.Forall₂ (Struct.IsStructOf (root ++ scheme.input)) ts r.inputs
  outputs : ∃ ts, List.Forall₂ (Struct.IsStructOf (root ++ scheme.output)) ts r.outputs

variable {scheme : Scheme}

namespace Under

variable {root : String} {r : Roles} (h : r.Under scheme root)

include h

theorem exists_own_eq {c : ClassDef} (member : c ∈ r.own) :
  ∃ ending ∈ scheme.endings, c.name = root ++ ending
  := by
  obtain ⟨ending, known, called⟩ := List.mem_map.mp (h.own.subset (List.mem_map_of_mem member))
  use ending, known, called.symm

theorem exists_struct_eq {d : ClassDef} (member : d ∈ r.inputs ++ r.outputs) :
  ∃ rest, d.name = root ++ rest ++ "Struct"
  := by
  obtain ⟨ts, inputs⟩ := h.inputs
  obtain ⟨us, outputs⟩ := h.outputs
  obtain inside | inside := List.mem_append.mp member
  · obtain ⟨path, called⟩ := Struct.exists_name_eq inputs inside
    use scheme.input ++ path
    rw [called, ← String.append_assoc]
  · obtain ⟨path, called⟩ := Struct.exists_name_eq outputs inside
    use scheme.output ++ path
    rw [called, ← String.append_assoc]

omit h

/-- The names of own classes are among the roots with the endings. -/
theorem sublist_own {roots : List String} {rs : List Roles}
    (h : List.Forall₂ (Under scheme) roots rs) :
  List.Sublist ((rs.flatMap (·.own)).map (·.name))
    (roots.flatMap fun root => scheme.endings.map (root ++ ·))
  := by
  induction h with
  | nil => apply List.Sublist.refl
  | cons head _ ih =>
      rw [List.flatMap_cons, List.flatMap_cons, List.map_append]
      apply head.own.append ih

end Under

/-- Roles under different roots are kept apart. -/
theorem apart_of_under {roots : List String} (distinct : roots.Nodup) {rs : List Roles}
    (h : List.Forall₂ (Under scheme) roots rs) :
  Apart (rs.flatMap (·.own)) rs
  := by
  obtain ⟨among, -, from_struct⟩ := List.pairwise_append.mp scheme.endings_apart
  constructor
  · apply (Under.sublist_own h).nodup
    apply nodup_flatMap_append among distinct
  · intro c own r' member' d struct
    obtain ⟨r, member, own⟩ := List.mem_flatMap.mp own
    obtain ⟨root, under⟩ := exists_of_forall₂ h member
    obtain ⟨root', under'⟩ := exists_of_forall₂ h member'
    obtain ⟨ending, known, called⟩ := under.exists_own_eq own
    obtain ⟨rest, called'⟩ := under'.exists_struct_eq struct
    rw [called, called']
    apply append_ne_append (from_struct ending known _ (List.mem_singleton_self _))
  · intro r member
    obtain ⟨root, under⟩ := exists_of_forall₂ h member
    obtain ⟨ts, inputs⟩ := under.inputs
    obtain ⟨us, outputs⟩ := under.outputs
    apply Struct.name_ne_name scheme.part inputs outputs

/-- A class with another name than all others is one more own class. -/
theorem Apart.concat {own : List ClassDef} {rs : List Roles} (h : Apart own rs) {c : ClassDef}
    (new : ∀ d ∈ own, c.name ≠ d.name)
    (other : ∀ r ∈ rs, ∀ d ∈ r.inputs ++ r.outputs, c.name ≠ d.name) :
  Apart (own ++ [c]) rs
  := by
  constructor
  · rw [List.map_append, List.map_singleton, ← List.concat_eq_append, List.nodup_concat,
      List.mem_map]
    constructor
    · rintro ⟨d, member, same⟩
      apply new d member same.symm
    · apply h.distinct
  · rw [List.forall_mem_append, List.forall_mem_singleton]
    use h.structs, other
  · apply h.sides

end Roles

/-! ## Calls and functions -/

theorem Call.HasRoles.under {x : String × Call Parameter} {r : Roles} (h : HasRoles x r) :
  r.Under scheme x.1
  := by
  constructor
  · rw [h.own]
    apply List.Sublist.refl
  · exact ⟨_, h.inputs⟩
  · exact ⟨_, h.outputs⟩

theorem Function.HasRoles.under {contract : String} {x : String × Function Parameter} {r : Roles}
    (h : HasRoles contract x r) :
  r.Under scheme (contract ++ "__" ++ x.1)
  := by
  constructor
  · rw [h.own]
    split
    · apply List.nil_sublist
    · apply List.Sublist.refl
  · exact ⟨_, h.inputs⟩
  · exact ⟨_, h.outputs⟩

/-- Calls with different names keep their roles apart. -/
theorem Call.apart_of_hasRoles {xs : List (String × Call Parameter)} {rs : List Roles}
    (distinct : (xs.map (·.1)).Nodup) (h : List.Forall₂ HasRoles xs rs) :
  Roles.Apart (rs.flatMap (·.own)) rs
  := by
  apply Roles.apart_of_under distinct
  apply List.forall₂_map_left_iff.mpr
  apply h.imp
  intro x r roles
  apply roles.under

/-- Functions with different names keep their roles apart, and all of them from the class of the
contract. -/
theorem Function.apart_of_hasRoles {contract : ClassDef} {name : String}
    (called : contract.name = name) {xs : List (String × Function Parameter)} {rs : List Roles}
    (distinct : (xs.map (·.1)).Nodup) (h : List.Forall₂ (HasRoles name) xs rs) :
  Roles.Apart (rs.flatMap (·.own) ++ [contract]) rs
  := by
  obtain rfl := called
  have roots : (xs.map fun x => contract.name ++ "__" ++ x.1).Nodup := by
    apply List.pairwise_map.mpr
    apply (List.pairwise_map.mp distinct).imp
    intro x y other same
    apply other ((String.append_right_inj _).mp same)
  have longer (name rest : String) : contract.name ≠ contract.name ++ "__" ++ name ++ rest := by
    rw [String.append_assoc, String.append_assoc]
    apply Text.ne_append
    apply Name.append_ne_empty_of_left
    decide
  apply Roles.Apart.concat
  · apply Roles.apart_of_under roots
    apply List.forall₂_map_left_iff.mpr
    apply h.imp
    intro x r roles
    apply roles.under
  · intro d own
    obtain ⟨r, member, own⟩ := List.mem_flatMap.mp own
    obtain ⟨x, roles⟩ := exists_of_forall₂ h member
    obtain ⟨ending, -, called⟩ := roles.under.exists_own_eq own
    rw [called]
    apply longer
  · intro r member d struct
    obtain ⟨x, roles⟩ := exists_of_forall₂ h member
    obtain ⟨rest, called⟩ := roles.under.exists_struct_eq struct
    rw [called, String.append_assoc]
    apply longer

/-! ## The classes that are made -/

/-- The classes of a call by their roles. -/
def Call.roles (assigned : String) (c : Call Slot) : Roles where
  own := (c.classes assigned).take 3
  inputs := Slot.structsAll (inputsName assigned) c.namedInputs
  outputs := Slot.structsAll (outputsName assigned) c.namedOutputs

theorem Call.classes_eq_roles (assigned : String) (c : Call Slot) :
  c.classes assigned
    = (c.roles assigned).own ++ (c.roles assigned).inputs ++ (c.roles assigned).outputs
  := by
  rfl

/-- The classes of a function by their roles. -/
def Function.roles (contract assigned : String) (f : Function Slot) : Roles where
  own := if f.results.length = 1 then [] else [resultClass contract assigned f.results]
  inputs := Slot.structsAll (inputStem contract assigned) f.arguments
  outputs := Slot.structsAll (outputStem contract assigned) f.results

theorem Function.classes_eq_roles (contract assigned : String) (f : Function Slot) :
  f.classes contract assigned
    = (f.roles contract assigned).own ++ (f.roles contract assigned).outputs
      ++ (f.roles contract assigned).inputs
  := by
  rfl

/-- Parameters that pass the check have structs for all tuples among them. -/
theorem Parameter.Checked.forall₂_isStructOf {ps : List Parameter} {slots : List Slot}
    (h : Checked ps slots) (stem word : String) (taken : List String) :
  List.Forall₂ (Struct.IsStructOf stem)
    (tuplesAll [] (Name.siblings word taken (ps.map label)) ps)
    (Slot.structsAll stem (Slot.named word taken slots))
  := by
  obtain ⟨context, checked⟩ := h
  rw [Slot.named, map_name_of_checkAll? checked]
  apply forall₂_isStructOf_structsAll checked stem []

theorem Call.Checked.hasRoles {c : Call Parameter} {c' : Call Slot} (h : Checked c c')
    (assigned : String) :
  HasRoles (assigned, c) (c'.roles assigned)
  := by
  constructor
  · rw [← inputsName_eq, ← outputsName_eq]
    rfl
  · rw [← inputsName_eq]
    apply h.inputs.forall₂_isStructOf
  · rw [← outputsName_eq]
    apply h.outputs.forall₂_isStructOf

theorem Function.Checked.hasRoles {f : Function Parameter} {f' : Function Slot} (h : Checked f f')
    (contract assigned : String) :
  HasRoles contract (assigned, f) (f'.roles contract assigned)
  := by
  constructor
  · rw [roles, h.length_results]
    split <;> rfl
  · apply h.inputs.forall₂_isStructOf
  · obtain ⟨context, checked⟩ := h.outputs
    rw [roles, ← h.zipWith_valueNames]
    apply Parameter.forall₂_isStructOf_structsAll checked _ []

/-! ## Sections -/

/-- The classes of bindings by sections and, after those of events, by their roles. -/
structure Arrangement where
  events : List ClassDef
  functions : List Roles
  contract : ClassDef
  calls : List Roles

namespace Arrangement

/-- All classes in order. -/
def classes (a : Arrangement) : List ClassDef :=
  a.events ++ a.functions.flatMap (fun r => r.own ++ r.outputs ++ r.inputs)
    ++ a.contract :: a.calls.flatMap fun r => r.own ++ r.inputs ++ r.outputs

/-- The arrangement of the classes that are made for the members of an interface, with names that
keep their roles apart. -/
structure Of (allowed : List String) (i : Interface Parameter) (a : Arrangement) : Prop where
  events : i.eventPass? = .ok a.events
  functions : List.Forall₂ (Function.HasRoles i.name) (i.namedFunctions allowed) a.functions
  contract : a.contract.name = i.name
  calls : List.Forall₂ Call.HasRoles i.namedCalls a.calls
  functions_apart : Roles.Apart (a.functions.flatMap (·.own) ++ [a.contract]) a.functions
  calls_apart : Roles.Apart (a.calls.flatMap (·.own)) a.calls

end Arrangement

namespace Interface

/-- The classes of all functions that can be read and of all calls have roles, which names keep
apart within the section of the contract and within that of the calls. -/
theorem roles_of_bindings? {options : Options} {i : Interface Parameter} {b : Bindings}
    (made : i.bindings? options = .ok b) :
  (i.namedFunctions options.allowed).map (·.2) = i.readable options.allowed
    ∧ i.namedCalls.map (·.2) = i.calls
    ∧ ∃ a : Arrangement, a.Of options.allowed i ∧ b.classes = a.classes
  := by
  obtain ⟨j, checked, rfl⟩ := bindings?_eq_ok_iff.mp made
  have name := (name_and_members_of_check? checked).1
  have functions : List.Forall₂ (Function.HasRoles i.name) (i.namedFunctions options.allowed)
      ((j.namedFunctions options.allowed).map fun x => x.2.roles j.name x.1) := by
    apply List.forall₂_map_right_iff.mpr
    apply (forall₂_namedFunctions _ checked).imp
    rintro ⟨assigned, f⟩ ⟨assigned', f'⟩ ⟨rfl, h⟩
    rw [name]
    apply h.hasRoles
  have calls : List.Forall₂ Call.HasRoles i.namedCalls
      (j.namedCalls.map fun x => x.2.roles x.1) := by
    apply List.forall₂_map_right_iff.mpr
    apply (forall₂_namedCalls checked).imp
    rintro ⟨assigned, c⟩ ⟨assigned', c'⟩ ⟨rfl, h⟩
    apply h.hasRoles
  refine ⟨i.map_snd_namedFunctions options.allowed, i.map_snd_namedCalls,
    ⟨j.eventSection.classes, _, j.contractClass options.allowed, _⟩,
    ⟨eventPass?_of_check? checked, functions, name, calls, ?_, ?_⟩, ?_⟩
  · apply Function.apart_of_hasRoles name (i.nodup_map_fst_namedFunctions _) functions
  · apply Call.apart_of_hasRoles i.nodup_map_fst_namedCalls calls
  · simp [bindings, sections, contractSection, callSection, Arrangement.classes, List.flatMap_map,
      Function.classes_eq_roles, Call.classes_eq_roles]

/-- A contract with overloads, functions of names that differ only by case or are those of the
constructor and of the fallback, and a tuple at the same position of inputs and of outputs. -/
def chest : Interface Parameter where
  name := "Chest"
  members :=
    [.constructor [{ type := "tuple", name := some "a", components := some [{ type := "bool" }] }]
      "payable",
     .function
      { name := "constructor", inputs := [], outputs := [], mutability := "payable" },
     .function
      { name := "open"
        inputs :=
          [{ type := "tuple", components := some
                [{ type := "tuple[]", name := some "x",
                   components := some [{ type := "bool" }] }] }]
        outputs :=
          [{ type := "tuple", components := some
                [{ type := "tuple[]", name := some "x",
                   components := some [{ type := "bool" }] }] },
            { type := "bool" }]
        mutability := "nonpayable" },
     .function { name := "Open", inputs := [], outputs := [], mutability := "nonpayable" },
     .function
      { name := "open", inputs := [], outputs := [{ type := "bool" }], mutability := "nonpayable" },
     .fallback "payable"]

/-- The names of its classes. -/
def chestNames : List String :=
  ["Chest__openResult", "Chest__openResult__Value0Struct", "Chest__openResult__Value0XStruct",
    "Chest__openInput__Param0Struct", "Chest__openInput__Param0XStruct", "Chest",
    "ConstructorCall", "ConstructorCall__Inputs", "ConstructorCall__Outputs",
    "ConstructorCall__InputsAStruct",
    "Constructor1Call", "Constructor1Call__Inputs", "Constructor1Call__Outputs",
    "OpenCall", "OpenCall__Inputs", "OpenCall__Outputs",
    "OpenCall__InputsValue0Struct", "OpenCall__InputsValue0XStruct",
    "OpenCall__OutputsValue0Struct", "OpenCall__OutputsValue0XStruct",
    "Open1Call", "Open1Call__Inputs", "Open1Call__Outputs",
    "Open2Call", "Open2Call__Inputs", "Open2Call__Outputs",
    "DefaultCall", "DefaultCall__Inputs", "DefaultCall__Outputs"]

theorem roles_chest :
  ∃ b, chest.bindings? {} = .ok b ∧ b.classNames = chestNames
    ∧ ∃ a : Arrangement, a.Of Mutability.readable chest ∧ b.classes = a.classes
  := by
  have names : (chest.bindings? {}).map Bindings.classNames = .ok chestNames := by
    decide +kernel
  obtain ⟨b, made, names⟩ := exists_bindings_of_classNames names
  obtain ⟨-, -, a, arranged, classes⟩ := roles_of_bindings? made
  use b, made, names, a, arranged

end Interface

end ContractBindings
