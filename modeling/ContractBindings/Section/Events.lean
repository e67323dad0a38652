import ContractBindings.Interface.Member
import ContractBindings.Section.Basic
import ContractBindings.Section.Holder
import ContractBindings.Struct.Property

/-!
# Events

For each event, a class for the event, a holder of its parameters, and the structs of the
tuples among them.  An indexed parameter of a hashed type is recorded as a digest, so its
getter is that of a digest, and a note says so.  Events of one name are told apart by a
number, since the class of an event has its name.

Events that have not been checked have their classes too, unless one of their parameters cannot
be read or lacks a struct.
-/

namespace ContractBindings

namespace Event

/-- The name of the holder of the parameters of an event. -/
def holderName (assigned : String) : String :=
  assigned ++ "__Params"

/-- The parameters of an event under distinct names. -/
def parameters (e : Event Slot) : List Slot :=
  Slot.named Source.eventParameters.word [] e.inputs

/-- The parameters of an event as they are recorded. -/
def recorded (e : Event Slot) : List Slot :=
  e.parameters.map Slot.recorded

/-- The classes of an event under its distinct name, with the getters of its parameters and
the structs of the tuples among them. -/
def classesOf (assigned : String) (getters : List Method) (structs : List ClassDef) :
    List ClassDef :=
  { name := assigned
    base := some Provided.event
    methods := [Holder.getter "params" (holderName assigned)] }
  :: Holder.classDef (holderName assigned) Source.eventReference assigned getters
  :: structs

/-- The classes of an event under its distinct name. -/
def classes (e : Event Slot) (assigned : String) : List ClassDef :=
  classesOf assigned (Slot.getters Source.eventParameters assigned e.recorded)
    (Slot.structsAll assigned e.recorded)

/-- The notes on the parameters of an event that are recorded as a digest. -/
def notes (e : Event Slot) (assigned : String) : List Note :=
  (e.parameters.filter fun s => s.indexed && Topic.isHashed s.type).map fun s =>
    Note.hashed assigned s.name s.type

/-- The classes of an event whose parameters have not been checked. -/
def classes? (assigned : String) (e : Event Parameter) : Except Fault (List ClassDef) := do
  let properties ← Parameter.properties? Source.eventParameters assigned 0
    (Parameter.named Source.eventParameters.word [] e.inputs)
  return classesOf assigned (properties.map (·.getter)) (properties.flatMap (·.classes))

end Event

namespace Interface

/-- The events with their distinct names. -/
def namedEvents {α : Type} (i : Interface α) : List (String × Event α) :=
  (Name.distinct (i.events.map (·.name))).zip i.events

/-- The section of the events. -/
def eventSection (i : Interface Slot) : Section where
  classes := i.namedEvents.flatMap fun (assigned, e) => e.classes assigned
  notes :=
    (Name.renames (i.events.map (·.name))).map (fun (name, assigned) =>
        Note.renamed "events" name assigned)
      ++ i.namedEvents.flatMap fun (assigned, e) => e.notes assigned

/-- The classes of the events, made from declared parameters. -/
def eventPass? (i : Interface Parameter) : Except Fault (List ClassDef) := do
  let classes ← i.namedEvents.mapM fun (assigned, e) => e.classes? assigned
  return classes.flatten

end Interface

end ContractBindings
