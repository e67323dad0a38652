import ContractBindings.Interface.Check
import ContractBindings.Proofs.Fault
import ContractBindings.Proofs.Types.Accepted

/-!
# Places of parameters

A place is a parameter of an interface with the label of its member and the names that lead to
it, its own last.  `Interface.places` lists the places of an interface: members in order, in a
member the inputs before the outputs, and a parameter before its components, which are looked
at only if it is a tuple or an array of tuples.

A place is admissible when its type is one that an interface may declare and, if it is a tuple
or an array of tuples, it has components.  `Interface.firstFault_check` says that the check of
an interface fails with the fault of the first place that is not.
-/

namespace ContractBindings

/-- A parameter with the label of its member and the names that lead to it. -/
structure Place where
  label : String
  path : List String
  parameter : Parameter

namespace Place

/-- The label of the member followed by the names that are not empty, with dots between. -/
def contextOf (label : String) (path : List String) : String :=
  ".".intercalate (label :: path.filter (· ≠ ""))

/-- The context that a fault on the parameter states. -/
def context (q : Place) : String :=
  contextOf q.label q.path

/-- The written type of the parameter, taken apart. -/
def type (q : Place) : TypeExpr :=
  TypeExpr.ofString q.parameter.type

/-- A declared parameter that can be turned into a slot, apart from its components. -/
structure Admissible (q : Place) : Prop where
  accepted : ∃ shape, q.type.check? q.context = .ok shape
  components : q.type.isTuple → ∃ p ps, q.parameter.components = some (p :: ps)

/-- The fault on the components of a tuple, if there is one. -/
def componentFault? (context : String) : Option (List Parameter) → Option Fault
  | some (_ :: _) => none
  | _ => some (.malformedMember .tupleWithoutComponents context)

/-- The fault on the parameter, if there is one: that of its type before that of its
components. -/
def fault? (q : Place) : Option Fault :=
  match q.type.check? q.context with
  | .error fault => some fault
  | .ok _ => if q.type.isTuple then componentFault? q.context q.parameter.components else none

/-- A name that is not empty extends a context after a dot. -/
theorem contextIn_contextOf (label : String) (path : List String) (name : String) :
  Parameter.contextIn (contextOf label path) name = contextOf label (path ++ [name])
  := by
  by_cases h : name = ""
  · simp [Parameter.contextIn, contextOf, h]
  · simp only [Parameter.contextIn, contextOf, h, if_false, List.filter_append]
    rw [← List.cons_append, String.intercalate_append_of_ne_nil (by simp) (by simp [h])]
    simp [h]

theorem fault?_of_error (q : Place) {fault : Fault}
    (h : q.type.check? q.context = .error fault) :
  q.fault? = some fault
  := by
  simp [fault?, h]

theorem fault?_of_ok (q : Place) {shape : Shape} (h : q.type.check? q.context = .ok shape) :
  q.fault? = if shape.isTuple then componentFault? q.context q.parameter.components else none
  := by
  simp [fault?, h, TypeExpr.isTuple_of_check? h]

/-- The fault of the first of several places is the one to look at first. -/
theorem findSome?_cons_fault? (q : Place) (qs : List Place) :
  (q :: qs).findSome? fault? = q.fault?.or (qs.findSome? fault?)
  := by
  rw [List.findSome?_cons]
  cases q.fault? <;> rfl

theorem componentFault?_eq_none_iff (context : String) (components : Option (List Parameter)) :
  componentFault? context components = none ↔ ∃ p ps, components = some (p :: ps)
  := by
  obtain _ | _ | ⟨p, ps⟩ := components <;> simp [componentFault?]

/-- A place is admissible if and only if there is no fault on its parameter. -/
theorem fault?_eq_none_iff (q : Place) :
  q.fault? = none ↔ q.Admissible
  := by
  constructor
  · intro h
    rw [fault?] at h
    split at h
    · cases h
    · next shape checked =>
      use ⟨shape, checked⟩
      intro tuple
      rw [if_pos tuple] at h
      apply (componentFault?_eq_none_iff _ _).mp h
  · rintro ⟨⟨shape, checked⟩, components⟩
    simp only [fault?, checked]
    split
    · next tuple => apply (componentFault?_eq_none_iff _ _).mpr (components tuple)
    · rfl

end Place

/-! ## The places of an interface -/

namespace Parameter

mutual

/-- The places of a parameter and of those inside, under the names around it. -/
def places (label : String) (path : List String) : Parameter → List Place
  | ⟨type, name, indexed, components⟩ =>
    ⟨label, path ++ [name.getD ""], ⟨type, name, indexed, components⟩⟩
      :: if (TypeExpr.ofString type).isTuple then
          componentPlaces label (path ++ [name.getD ""]) components
        else
          []

/-- The places of the components of a tuple. -/
def componentPlaces (label : String) (path : List String) : Option (List Parameter) → List Place
  | none => []
  | some ps => placesAll label path ps

/-- The places of parameters that stand side by side. -/
def placesAll (label : String) (path : List String) : List Parameter → List Place
  | [] => []
  | p :: ps => p.places label path ++ placesAll label path ps

end

theorem placesAll_append (label : String) (path : List String) (ps qs : List Parameter) :
  placesAll label path (ps ++ qs) = placesAll label path ps ++ placesAll label path qs
  := by
  induction ps with
  | nil => rfl
  | cons p ps ih => rw [List.cons_append, placesAll, placesAll, ih, List.append_assoc]

end Parameter

/-- The places of a member. -/
def Member.places (m : Member Parameter) : List Place :=
  Parameter.placesAll m.label [] (m.inputs ++ m.outputs)

/-- The places of an interface. -/
def Interface.places (i : Interface Parameter) : List Place :=
  i.members.flatMap Member.places

/-! ## The first fault -/

namespace Parameter

theorem firstFault_checkComponents? {label : String} {path : List String}
    {components : Option (List Parameter)}
    (ih : ∀ ps, components = some ps →
      Fault.of? (checkAll? (Place.contextOf label path) ps)
        = (placesAll label path ps).findSome? Place.fault?) :
  Fault.of? (checkComponents? (Place.contextOf label path) components)
    = (Place.componentFault? (Place.contextOf label path) components).or
        ((componentPlaces label path components).findSome? Place.fault?)
  := by
  obtain _ | _ | ⟨p, ps⟩ := components
  · rfl
  · rfl
  · rw [checkComponents?, Fault.of?_bind_pure, ih _ rfl]
    rfl

mutual

/-- The check of a parameter ends with the fault of its first place that has one. -/
theorem firstFault_check? (label : String) (path : List String) (p : Parameter) :
  Fault.of? (check? (Place.contextOf label path) p) = (p.places label path).findSome? Place.fault?
  := by
  obtain ⟨type, name, indexed, components⟩ := p
  rw [check?, places, Place.contextIn_contextOf, Place.findSome?_cons_fault?]
  let q : Place := ⟨label, path ++ [name.getD ""], ⟨type, name, indexed, components⟩⟩
  cases checked : (TypeExpr.ofString type).check?
      (Place.contextOf label (path ++ [name.getD ""])) with
  | error fault =>
      rw [q.fault?_of_error checked]
      rfl
  | ok shape =>
      have tuple := TypeExpr.isTuple_of_check? checked
      rw [q.fault?_of_ok checked]
      change Fault.of? (if shape.isTuple then _ else _) = _
      by_cases h : shape.isTuple
      · rw [if_pos h, if_pos h, if_pos (tuple.symm.trans h), Fault.of?_bind_pure]
        apply firstFault_checkComponents?
        rintro ps rfl
        apply firstFault_checkAll?
      · rw [if_neg h, if_neg h, if_neg (tuple ▸ h)]
        rfl

/-- The check of parameters side by side ends with the fault of their first place that has
one. -/
theorem firstFault_checkAll? (label : String) (path : List String) (ps : List Parameter) :
  Fault.of? (checkAll? (Place.contextOf label path) ps)
    = (placesAll label path ps).findSome? Place.fault?
  := by
  cases ps with
  | nil => rfl
  | cons p ps =>
      rw [checkAll?, placesAll, List.findSome?_append, ← firstFault_check? label path p,
        ← firstFault_checkAll? label path ps]
      apply Fault.of?_bind
      intro s _
      apply Fault.of?_bind_pure

end

end Parameter

/-- The context of a member is its label. -/
theorem Place.contextOf_nil (label : String) :
  contextOf label [] = label
  := by
  simp [contextOf]

/-- The check of a member ends with the fault of its first place that has one. -/
theorem Member.firstFault_check? (m : Member Parameter) :
  Fault.of? m.check? = m.places.findSome? Place.fault?
  := by
  have parameters := fun ps => Parameter.firstFault_checkAll? m.label [] ps
  simp only [Place.contextOf_nil] at parameters
  rw [places, Parameter.placesAll_append, List.findSome?_append, ← parameters, ← parameters]
  cases m with
  | function f =>
      apply Fault.of?_bind
      intro inputs _
      apply Fault.of?_bind_pure
  | constructor inputs mutability =>
      rw [check?, Fault.of?_bind_pure]
      symm
      apply Option.or_none
  | event e =>
      rw [check?, Fault.of?_bind_pure]
      symm
      apply Option.or_none
  | fallback mutability => rfl

/-- The check of an interface ends with the fault of its first place that has one. -/
theorem Interface.firstFault_check? (i : Interface Parameter) :
  Fault.of? i.check? = i.places.findSome? Place.fault?
  := by
  rw [check?, Fault.of?_bind_pure, places]
  induction i.members with
  | nil => rfl
  | cons m ms ih =>
      rw [Member.checkAll?, List.flatMap_cons, List.findSome?_append, ← ih,
        ← m.firstFault_check?]
      apply Fault.of?_bind
      intro m' _
      apply Fault.of?_bind_pure

end ContractBindings
