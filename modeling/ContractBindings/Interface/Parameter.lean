/-!
# Parameters

A parameter of a function, an event or a constructor, and the components of a tuple, which
are parameters again.  `Parameter.same` compares two parameters part by part, and decides
their equality.
-/

namespace ContractBindings

/-- A parameter as an interface declares it: nothing is known yet of its type, and only a
tuple has a use for components. -/
structure Parameter where
  type : String
  name : Option String := none
  indexed : Bool := false
  components : Option (List Parameter) := none
deriving Inhabited

namespace Parameter

/-- The name of a parameter, empty when it has none. -/
def label (p : Parameter) : String :=
  p.name.getD ""

mutual

/-- Whether two parameters agree in every part. -/
def same : Parameter → Parameter → Bool
  | ⟨type, name, indexed, components⟩, ⟨type', name', indexed', components'⟩ =>
    type == type' && name == name' && indexed == indexed'
      && sameComponents components components'

/-- Whether two optional lists of components agree. -/
def sameComponents : Option (List Parameter) → Option (List Parameter) → Bool
  | none, none => true
  | some ps, some qs => sameAll ps qs
  | _, _ => false

/-- Whether two lists of parameters agree, item by item. -/
def sameAll : List Parameter → List Parameter → Bool
  | [], [] => true
  | p :: ps, q :: qs => p.same q && sameAll ps qs
  | _, _ => false

end

theorem same_iff (p q : Parameter) : p.same q = true ↔ p = q := by
  apply Parameter.rec
    (motive_1 := fun p => ∀ q, p.same q = true ↔ p = q)
    (motive_2 := fun ps => ∀ qs, sameComponents ps qs = true ↔ ps = qs)
    (motive_3 := fun ps => ∀ qs, sameAll ps qs = true ↔ ps = qs)
  · rintro type name indexed components ih ⟨type', name', indexed', components'⟩
    simp [same, ih, and_assoc]
  · rintro (_ | qs) <;> simp [sameComponents]
  · rintro ps ih (_ | qs) <;> simp [sameComponents, ih]
  · rintro (_ | ⟨q, qs⟩) <;> simp [sameAll]
  · rintro p ps ihp ihps (_ | ⟨q, qs⟩) <;> simp [sameAll, ihp, ihps]

instance : DecidableEq Parameter := fun p q =>
  decidable_of_iff (p.same q = true) (same_iff p q)

end Parameter

end ContractBindings
