import ContractBindings.Struct.Basic

/-!
# Properties

Getters and structs for parameters that have not been checked, by themselves or side by side.
The type of a parameter has to have a shape, and each tuple has to have components; lengths of
arrays are not looked at.  A fault on a tuple without components names its field, after the stem
of the struct that is not made.
-/

namespace ContractBindings

/-- The getter of a parameter with the structs that its type needs. -/
structure Property where
  getter : Method
  classes : List ClassDef

namespace Parameter

mutual

/-- The slot of a parameter under a name. -/
def slot? (stem name : String) : Parameter → Except Fault Slot
  | ⟨type, _, indexed, components⟩ => do
    let shape ← (TypeExpr.ofString type).shape?
    let fields ← if shape.isTuple then fields? stem name components else .ok []
    return ⟨name, type, indexed, shape, fields⟩

/-- The slots of the components of a tuple. -/
def fields? (stem name : String) : Option (List Parameter) → Except Fault (List Slot)
  | some (p :: ps) =>
    slots? (Struct.innerStem stem name)
      (Name.siblings Slot.componentWord [] ((p :: ps).map label)) (p :: ps)
  | _ => .error (.malformedMember (.structWithoutComponents name) stem)

/-- The slots of parameters under their names. -/
def slots? (stem : String) : List String → List Parameter → Except Fault (List Slot)
  | name :: names, p :: ps => return (← slot? stem name p) :: (← slots? stem names ps)
  | _, _ => .ok []

end

/-- The name of a parameter at a position of a source. -/
def nameAt (source : Source) (position : Int) (p : Parameter) : String :=
  if p.label = "" then source.defaultName position else p.label

/-- The type under which a source records a parameter. -/
def typeAt (source : Source) (p : Parameter) : String :=
  if source.isEvent && p.indexed then Topic.typeOf p.type else p.type

/-- The structs of a parameter whose components are those of a tuple. -/
def structs? (stem name : String) (p : Parameter) : Except Fault (List ClassDef) :=
  (fields? stem name p.components).map (Struct.classes stem name)

/-- The property of a parameter at a position of a source. -/
def property? (source : Source) (stem : String) (position : Int) (p : Parameter) :
    Except Fault Property :=
  (slot? stem (p.nameAt source position) { p with type := p.typeAt source }).map
    fun s => ⟨s.getter source stem position, s.structs stem⟩

/-- The property of a parameter that is taken for a tuple, whether an event hashes it or
not. -/
def structProperty? (source : Source) (stem : String) (position : Int) (p : Parameter) :
    Except Fault Property := do
  let name := p.nameAt source position
  let shape ← (TypeExpr.ofString p.type).shape?
  let fields ← fields? stem name p.components
  let s : Slot := ⟨name, p.type, p.indexed, shape, fields⟩
  return ⟨s.getter source stem position, Struct.classes stem name fields⟩

/-- The parameter under a name. -/
def renamed (name : String) (p : Parameter) : Parameter :=
  { p with name := some name }

/-- Parameters that stand side by side, with distinct names. -/
def named (word : String) (taken : List String) (ps : List Parameter) : List Parameter :=
  List.zipWith renamed (Name.siblings word taken (ps.map label)) ps

/-- The properties of parameters that stand side by side, the first of them at the given
position of a source. -/
def properties? (source : Source) (stem : String) :
    Nat → List Parameter → Except Fault (List Property)
  | _, [] => .ok []
  | position, p :: ps =>
    return (← p.property? source stem position) :: (← properties? source stem (position + 1) ps)

/-- The structs of a parameter under a name, for a tuple only. -/
def tupleStructs? (stem name : String) (p : Parameter) : Except Fault (List ClassDef) :=
  if (TypeExpr.ofString p.type).isTuple then p.structs? stem name else .ok []

/-- The structs of parameters under their names. -/
def tupleStructsAll? (stem : String) :
    List String → List Parameter → Except Fault (List ClassDef)
  | name :: names, p :: ps =>
    return (← p.tupleStructs? stem name) ++ (← tupleStructsAll? stem names ps)
  | _, _ => .ok []

end Parameter

end ContractBindings
