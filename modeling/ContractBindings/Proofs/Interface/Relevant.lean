import ContractBindings.Proofs.Bindings.Notes

/-!
# What matters of an interface

`Interface.relevant` is an interface without what has no effect on its bindings.  Taken away are

* the components of a parameter that is neither a tuple nor arrays of tuples,
* that a parameter is indexed, unless it is an input of an event and known by its digest only,
* the names of outputs of functions that a transaction may not call,
* that an event is anonymous, and
* the mutability of a constructor.

The same is taken away from slots.  The slots of what matters of an interface are what matters of
its slots, and there are slots of both or of neither (`Interface.toOption_check?_relevant`).  So two
interfaces that differ in nothing that matters pass the check together.
-/

namespace ContractBindings

/-! ## Members -/

/-- What matters of parameters, by where they stand: of an input of an event, of an output of a
function that a transaction may not call, and of all others. -/
structure Relevance (α : Type) where
  plain : α → α
  eventInput : α → α
  readOutput : α → α

section

variable {α : Type} (r : Relevance α)

/-- What matters of an output of a function, by the mutability of the function. -/
def Relevance.output (mutability : String) : α → α :=
  if mutability ∈ Mutability.changing then r.plain else r.readOutput

/-- What matters of a function. -/
def Function.relevant (f : Function α) : Function α where
  name := f.name
  inputs := f.inputs.map r.plain
  outputs := f.outputs.map (r.output f.mutability)
  mutability := f.mutability

/-- What matters of an event. -/
def Event.relevant (e : Event α) : Event α where
  name := e.name
  inputs := e.inputs.map r.eventInput
  anonymous := false

/-- What matters of a call. -/
def Call.relevant (c : Call α) : Call α where
  name := c.name
  inputs := c.inputs.map r.plain
  outputs := c.outputs.map r.plain

/-- What matters of a member. -/
def Member.relevant : Member α → Member α
  | function f => function (f.relevant r)
  | constructor inputs _ => constructor (inputs.map r.plain) ""
  | event e => event (e.relevant r)
  | fallback mutability => fallback mutability

/-- What matters of an interface. -/
def Interface.relevant (i : Interface α) : Interface α where
  name := i.name
  members := i.members.map (Member.relevant r)

end

/-! ## Parameters and slots -/

namespace Parameter

mutual

/-- What matters of a parameter wherever it stands: its type, its name and, for a tuple or arrays of
tuples, its components. -/
def plain : Parameter → Parameter
  | ⟨type, name, _, components⟩ =>
    ⟨type, name, false,
      if (TypeExpr.ofString type).isTuple then plainComponents components else none⟩

/-- What matters of the components of a tuple. -/
def plainComponents : Option (List Parameter) → Option (List Parameter)
  | none => none
  | some ps => some (plainAll ps)

/-- What matters of parameters that stand side by side. -/
def plainAll : List Parameter → List Parameter
  | [] => []
  | p :: ps => p.plain :: plainAll ps

end

/-- What matters of a parameter has its name and is not indexed. -/
theorem with_name_plain (p : Parameter) :
  ({ p.plain with name := p.name, indexed := false } : Parameter) = p.plain
  := by
  obtain ⟨type, name, indexed, components⟩ := p
  rw [plain]

/-- What matters of parameters, by where they stand. -/
def relevance : Relevance Parameter where
  plain := plain
  eventInput p := { p.plain with indexed := p.isDigested }
  readOutput p := { p.plain with name := none }

end Parameter

namespace Slot

mutual

/-- What matters of a slot wherever it stands. -/
def plain : Slot → Slot
  | ⟨name, type, _, shape, fields⟩ => ⟨name, type, false, shape, plainAll fields⟩

/-- What matters of slots that stand side by side. -/
def plainAll : List Slot → List Slot
  | [] => []
  | s :: ss => s.plain :: plainAll ss

end

theorem plainAll_eq_map :
  plainAll = List.map plain
  := by
  ext1 slots
  induction slots with
  | nil => rfl
  | cons s ss ih => rw [plainAll, List.map_cons, ih]

/-- Slots are given the same names after a change that has nothing to do with names. -/
theorem named_map {f : Slot → Slot} (kept : ∀ s, (f s).name = s.name)
    (apart : ∀ name s, (f s).renamed name = f (s.renamed name)) (word : String)
    (taken : List String) (slots : List Slot) :
  named word taken (slots.map f) = (named word taken slots).map f
  := by
  have names : (slots.map f).map (·.name) = slots.map (·.name) := by
    rw [List.map_map]
    apply List.map_congr_left
    intro s _
    apply kept
  rw [named, named, names, List.zipWith_map_right, List.map_zipWith]
  congr 1
  ext1 name
  ext1 s
  apply apart

theorem plain_eq (s : Slot) :
  s.plain = { s with indexed := false, fields := s.fields.map plain }
  := by
  obtain ⟨name, type, indexed, shape, fields⟩ := s
  rw [plain, plainAll_eq_map]

theorem name_plain (s : Slot) :
  s.plain.name = s.name
  := by
  rw [plain_eq]

theorem renamed_plain (name : String) (s : Slot) :
  s.plain.renamed name = (s.renamed name).plain
  := by
  rw [plain_eq, plain_eq, renamed, renamed]

/-- What matters of slots, by where they stand. -/
def relevance : Relevance Slot where
  plain := plain
  eventInput s := { s.plain with indexed := s.indexed && Topic.isHashed s.type }
  readOutput s := { s.plain with name := "" }

end Slot

/-! ## The check of a parameter -/

/-- The context of a type does not matter to its shape. -/
theorem TypeExpr.toOption_check?_congr (t : TypeExpr) (context context' : String) :
  (t.check? context).toOption = (t.check? context').toOption
  := by
  induction t with
  | name text =>
      rw [check?, check?]
      cases Shape.ofName? text <;> rfl
  | array text length element ih =>
      rw [check?, check?]
      split
      · rfl
      · rw [Fault.toOption_bind, Fault.toOption_bind, ih]

namespace Parameter

/-- The slot of a parameter, if there is one. -/
theorem toOption_check? (context : String) (p : Parameter) :
  (p.check? context).toOption
    = ((TypeExpr.ofString p.type).check? "").toOption.bind fun shape =>
      (if shape.isTuple then
        (checkComponents? (contextIn context p.label) p.components).toOption else some []).map
      fun fields => ⟨p.label, p.type, p.indexed, shape, fields⟩
  := by
  obtain ⟨type, name, indexed, components⟩ := p
  rw [check?, Fault.toOption_bind, TypeExpr.toOption_check?_congr _ _ ""]
  congr 1
  ext1 shape
  change (if shape.isTuple then _ else _ : Except Fault Slot).toOption = _
  cases shape.isTuple with
  | false => rfl
  | true =>
      rw [if_pos rfl, if_pos rfl]
      apply Fault.toOption_map

/-- What is made of the slot of a parameter is made of a slot that says the same of it. -/
theorem map_toOption_check?_congr {β : Type} {f g : Slot → β} {p : Parameter}
    (same : ∀ shape fields, f ⟨p.label, p.type, p.indexed, shape, fields⟩
      = g ⟨p.label, p.type, p.indexed, shape, fields⟩) (context : String) :
  (p.check? context).toOption.map f = (p.check? context).toOption.map g
  := by
  rw [toOption_check?, Option.map_bind, Option.map_bind]
  congr 1
  ext1 shape
  rw [Function.comp_apply, Function.comp_apply, Option.map_map, Option.map_map]
  congr 1
  ext1 fields
  apply same

/-- What is made of the slots of other parameters is made one after the other. -/
theorem toOption_checkAll?_cons_of_map {context context' : String} {p q : Parameter}
    {ps qs : List Parameter} {change : Slot → Slot}
    (head : (q.check? context').toOption = (p.check? context).toOption.map change)
    (tail : (checkAll? context' qs).toOption = (checkAll? context ps).toOption.map (.map change)) :
  (checkAll? context' (q :: qs)).toOption
    = (checkAll? context (p :: ps)).toOption.map (.map change)
  := by
  rw [checkAll?, checkAll?]
  apply Fault.toOption_bind_eq_map head
  intro s
  apply Fault.toOption_bind_eq_map tail
  intro ss
  rfl

/-- What matters of a parameter keeps its name, and is not indexed. -/
theorem toOption_check?_plain_of_renamed {context context' : String} {p : Parameter}
    (h : (({ p.plain with name := p.name, indexed := false } : Parameter).check? context').toOption
      = (p.check? context).toOption.map fun s =>
        { s.plain with name := p.label, indexed := false }) :
  (p.plain.check? context').toOption = (p.check? context).toOption.map Slot.plain
  := by
  rw [← with_name_plain, h]
  apply map_toOption_check?_congr
  intro shape fields
  rfl

mutual

/-- What matters of a parameter has a slot when the parameter has, also under another name, within
another context and whether it is indexed or not: it is what matters of this slot. -/
theorem toOption_check?_renamed_plain (context context' : String) (name : Option String)
    (indexed : Bool) (p : Parameter) :
  (({ p.plain with name := name, indexed := indexed } : Parameter).check? context').toOption
    = (p.check? context).toOption.map fun s =>
      { s.plain with name := name.getD "", indexed := indexed }
  := by
  obtain ⟨type, _, _, components⟩ := p
  rw [toOption_check?, toOption_check?, plain]
  cases checked : (TypeExpr.ofString type).check? "" with
  | error fault => rfl
  | ok shape =>
      simp only [Fault.toOption_ok, Option.bind_some, ← TypeExpr.isTuple_of_check? checked]
      -- The check looks at components for tuples only, as does `plain`.
      cases shape.isTuple with
      | false => rfl
      | true =>
          rw [if_pos rfl, if_pos rfl, if_pos rfl,
            toOption_checkComponents?_plainComponents (contextIn context _), Option.map_map,
            Option.map_map, ← Slot.plainAll_eq_map]
          rfl

/-- What matters of the components of a tuple has slots when the components have. -/
theorem toOption_checkComponents?_plainComponents (context context' : String)
    (components : Option (List Parameter)) :
  (checkComponents? context' (plainComponents components)).toOption
    = (checkComponents? context components).toOption.map (.map Slot.plain)
  := by
  obtain _ | _ | ⟨p, ps⟩ := components
  · rfl
  · rfl
  · rw [plainComponents, plainAll, checkComponents?, checkComponents?, ← plainAll]
    apply Fault.toOption_bind_eq_map (toOption_checkAll?_plainAll context ..)
    intro slots
    rw [Slot.named_map Slot.name_plain Slot.renamed_plain]
    rfl

/-- What matters of parameters that stand side by side has slots when the parameters have. -/
theorem toOption_checkAll?_plainAll (context context' : String) (ps : List Parameter) :
  (checkAll? context' (plainAll ps)).toOption
    = (checkAll? context ps).toOption.map (.map Slot.plain)
  := by
  obtain _ | ⟨p, ps⟩ := ps
  · rfl
  · rw [plainAll]
    apply toOption_checkAll?_cons_of_map
    · apply toOption_check?_plain_of_renamed (toOption_check?_renamed_plain ..)
    · apply toOption_checkAll?_plainAll

end

/-- That a change of parameters comes to a change of their slots, of which there are some after the
change if and only if there were some before, in whatever contexts. -/
def Commutes (change : Parameter → Parameter) (change' : Slot → Slot) : Prop :=
  ∀ context context' p,
    ((change p).check? context').toOption = (p.check? context).toOption.map change'

theorem commutes_plain :
  Commutes relevance.plain Slot.relevance.plain
  := by
  intro context context' p
  apply toOption_check?_plain_of_renamed (toOption_check?_renamed_plain ..)

theorem commutes_eventInput :
  Commutes relevance.eventInput Slot.relevance.eventInput
  := by
  intro context context' p
  change (({ p.plain with indexed := p.isDigested } : Parameter).check? context').toOption = _
  rw [← with_name_plain, toOption_check?_renamed_plain context, isDigested_eq]
  apply map_toOption_check?_congr
  intro shape fields
  rfl

theorem commutes_readOutput :
  Commutes relevance.readOutput Slot.relevance.readOutput
  := by
  intro context context' p
  change (({ p.plain with name := none } : Parameter).check? context').toOption = _
  rw [← with_name_plain, toOption_check?_renamed_plain context]
  apply map_toOption_check?_congr
  intro shape fields
  rfl

theorem commutes_output (mutability : String) :
  Commutes (relevance.output mutability) (Slot.relevance.output mutability)
  := by
  rw [Relevance.output, Relevance.output]
  split
  · apply commutes_plain
  · apply commutes_readOutput

/-- A change of parameters that stand side by side comes to that of their slots. -/
theorem Commutes.toOption_checkAll? {change : Parameter → Parameter} {change' : Slot → Slot}
    (h : Commutes change change') (context context' : String) (ps : List Parameter) :
  (checkAll? context' (ps.map change)).toOption
    = (checkAll? context ps).toOption.map (.map change')
  := by
  induction ps with
  | nil => rfl
  | cons p ps ih => apply toOption_checkAll?_cons_of_map (h ..) ih

end Parameter

/-! ## The check of an interface -/

namespace Member

/-- There are slots of what matters of a member when there are slots of the member. -/
theorem toOption_check?_relevant (m : Member Parameter) :
  (m.relevant Parameter.relevance).check?.toOption
    = m.check?.toOption.map (relevant Slot.relevance)
  := by
  cases m with
  | function f =>
      apply Fault.toOption_bind_eq_map (Parameter.commutes_plain.toOption_checkAll? ..)
      intro inputs
      apply Fault.toOption_bind_eq_map ((Parameter.commutes_output _).toOption_checkAll? ..)
      intro outputs
      rfl
  | constructor inputs mutability =>
      apply Fault.toOption_bind_eq_map (Parameter.commutes_plain.toOption_checkAll? ..)
      intro slots
      rfl
  | event e =>
      apply Fault.toOption_bind_eq_map (Parameter.commutes_eventInput.toOption_checkAll? ..)
      intro slots
      rfl
  | fallback mutability => rfl

/-- There are slots of what matters of members when there are slots of the members. -/
theorem toOption_checkAll?_relevant (ms : List (Member Parameter)) :
  (checkAll? (ms.map (relevant Parameter.relevance))).toOption
    = (checkAll? ms).toOption.map (.map (relevant Slot.relevance))
  := by
  induction ms with
  | nil => rfl
  | cons m ms ih =>
      rw [List.map_cons, checkAll?, checkAll?]
      apply Fault.toOption_bind_eq_map (toOption_check?_relevant m)
      intro m'
      apply Fault.toOption_bind_eq_map ih
      intro ms'
      rfl

end Member

/-- There are slots of what matters of an interface when there are slots of the interface: they are
what matters of these. -/
theorem Interface.toOption_check?_relevant (i : Interface Parameter) :
  (i.relevant Parameter.relevance).check?.toOption
    = i.check?.toOption.map (relevant Slot.relevance)
  := by
  rw [check?, check?, relevant]
  apply Fault.toOption_bind_eq_map (Member.toOption_checkAll?_relevant ..)
  intro members
  rfl

end ContractBindings
