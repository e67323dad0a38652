import ContractBindings.Proofs.Interface.Demands
import ContractBindings.Proofs.Interface.Pruned
import Mathlib.Tactic.Common

/-!
# Malformed entries

A list of entries is regular when it holds objects whose types, names and mutabilities are texts,
null or absent, and whose inputs, outputs and components are lists of such objects, null or
absent.  Reading an interface from regular entries fails if and only if one of them is malformed,
with the fault of the first demand on the earliest of these that is not met.  What comes after
this demand does not matter, and neither do fields that are not used.
-/

namespace ContractBindings

/-- The demand on a name is met when it is not empty. -/
theorem Demand.fault?_name_eq_none_iff (problem : Problem) (owner given : String) :
  (Demand.name problem owner given).fault? = none ↔ given ≠ ""
  := by
  rw [fault?]
  split <;> simp_all

/-- A demand that is not on a shape has a fault of a member. -/
theorem Demand.exists_malformedMember {d : Demand} (h : ∀ fault, d ≠ .shape fault) {fault : Fault}
    (found : d.fault? = some fault) :
  ∃ problem label, fault = .malformedMember problem label
  := by
  rw [fault?.eq_def] at found
  split at found
  · cases h _ rfl
  · obtain ⟨-, ⟨⟩⟩ := Option.ite_none_left_eq_some.mp found
    exact ⟨_, _, rfl⟩
  · obtain ⟨-, ⟨⟩⟩ := Option.ite_none_right_eq_some.mp found
    exact ⟨_, _, rfl⟩
  · obtain ⟨-, ⟨⟩⟩ := Option.ite_none_left_eq_some.mp found
    exact ⟨_, _, rfl⟩
  · cases found
  · obtain ⟨-, ⟨⟩⟩ := Option.ite_none_left_eq_some.mp found
    exact ⟨_, _, rfl⟩

/-- A field is a text, null or absent. -/
def Json.Textual (name : String) (fields : List (String × Json)) : Prop :=
  ∀ value, Json.field? name fields = some value → value = .null ∨ ∃ word, value = .text word

/-! ## Parameters -/

namespace Parameter

/-- A list of objects whose types and names are texts, null or absent, and whose components are
such lists again, null or absent; or null. -/
inductive Regular : Json → Prop where
  | null : Regular .null
  | list {items : List Json} (objects : ∀ item ∈ items, ∃ fields, item = .object fields)
    (typed : ∀ fields, .object fields ∈ items → Json.Textual "type" fields)
    (named : ∀ fields, .object fields ∈ items → Json.Textual "name" fields)
    (components : ∀ fields value, .object fields ∈ items →
      Json.field? "components" fields = some value → Regular value) :
    Regular (.list items)

/-- A parameter is one of those that a value lists, or among their components at any depth. -/
inductive Held (p : List (String × Json)) : Json → Prop where
  | item {items : List Json} (h : .object p ∈ items) : Held p (.list items)
  | component {items : List Json} {outer : List (String × Json)} {value : Json}
    (h : .object outer ∈ items) (listed : Json.field? "components" outer = some value)
    (inner : Held p value) :
    Held p (.list items)

theorem Regular.of_list {items : List Json} (h : ∀ item ∈ items, ∃ fields, item = .object fields
    ∧ Json.Textual "type" fields ∧ Json.Textual "name" fields
    ∧ ∀ value, Json.field? "components" fields = some value → Regular value) :
  Regular (.list items)
  := by
  have each {fields : List (String × Json)} (listed : .object fields ∈ items) :
      Json.Textual "type" fields ∧ Json.Textual "name" fields
        ∧ ∀ value, Json.field? "components" fields = some value → Regular value := by
    obtain ⟨_, ⟨⟩, typed, named, components⟩ := h _ listed
    exact ⟨typed, named, components⟩
  apply Regular.list
  · intro item listed
    obtain ⟨fields, rfl, -⟩ := h item listed
    use fields
  · intro fields listed
    apply (each listed).1
  · intro fields listed
    apply (each listed).2.1
  · intro fields value listed
    apply (each listed).2.2

theorem Regular.textual {p : List (String × Json)} {value : Json} (regular : Regular value)
    (held : Held p value) :
  Json.Textual "type" p
  := by
  induction held with
  | item h =>
      cases regular with
      | list _ typed _ _ => apply typed p h
  | component h listed _ ih =>
      cases regular with
      | list _ _ _ components => apply ih (components _ _ h listed)

theorem demandsAll_eq_flatMap (owner : String) (items : List Json) :
  demandsAll owner items = items.flatMap (demands owner)
  := by
  induction items with
  | nil => rfl
  | cons item rest ih => rw [demandsAll, List.flatMap_cons, ih]

theorem demandsIn_eq (owner : String) (fields : List (String × Json)) :
  demandsIn owner fields = ((Json.field? "components" fields).map (demandsOf owner)).getD []
  := by
  induction fields with
  | nil => rfl
  | cons field rest ih =>
      obtain ⟨key, value⟩ := field
      rw [demandsIn, Json.field?_cons, ih]
      by_cases h : key = "components"
      · rw [if_pos h, if_pos h.symm]
        rfl
      · rw [if_neg h, if_neg (Ne.symm h)]

/-- The demands on parameters that are regular are those on the type of each of them. -/
theorem mem_demandsOf_iff {owner : String} {value : Json} (regular : Regular value) (d : Demand) :
  d ∈ demandsOf owner value
    ↔ ∃ p, Held p value ∧ d = .type owner (Json.field? "type" p)
  := by
  induction regular with
  | null =>
      constructor
      · rintro ⟨⟩
      · rintro ⟨p, ⟨⟩, -⟩
  | @list items objects _ _ components ih =>
      rw [demandsOf, demandsAll_eq_flatMap, List.mem_flatMap]
      constructor
      · rintro ⟨item, listed, h⟩
        obtain ⟨fields, rfl⟩ := objects item listed
        rw [demands, List.mem_cons, demandsIn_eq] at h
        obtain rfl | h := h
        · use fields, .item listed
        · cases found : Json.field? "components" fields with
          | none =>
              rw [found] at h
              cases h
          | some value =>
              rw [found] at h
              obtain ⟨p, held, rfl⟩ := (ih fields value listed found).mp h
              use p, .component listed found held
      · rintro ⟨p, held, rfl⟩
        cases held with
        | item h =>
            use .object p, h
            rw [demands]
            apply List.mem_cons_self
        | @component _ outer value h found inner =>
            use .object outer, h
            rw [demands, demandsIn_eq, found]
            apply List.mem_cons_of_mem
            exact (ih outer value h found).mpr ⟨p, inner, rfl⟩

/-- The demands on parameters that are regular are met when each of them has a type. -/
theorem met_demandsOf_iff {owner : String} {value : Json} (regular : Regular value) :
  (∀ d ∈ demandsOf owner value, d.fault? = none)
    ↔ ∀ p, Held p value → Json.textOf "type" p ≠ ""
  := by
  have met (p : List (String × Json)) (held : Held p value) :
      (Demand.type owner (Json.field? "type" p)).fault? = none ↔ Json.textOf "type" p ≠ "" := by
    have textual := regular.textual held
    rw [Demand.fault?, Json.textOf]
    cases found : Json.field? "type" p with
    | none => simp
    | some stated =>
        obtain rfl | ⟨word, rfl⟩ := textual stated found
        · simp [Json.holds]
        · simp [Json.holds]
  constructor
  · intro h p held
    apply (met p held).mp
    exact h _ ((mem_demandsOf_iff regular _).mpr ⟨p, held, rfl⟩)
  · intro h d listed
    obtain ⟨p, held, rfl⟩ := (mem_demandsOf_iff regular d).mp listed
    exact (met p held).mpr (h p held)

/-- A parameter under a field of an entry, at any depth. -/
def HeldUnder (name : String) (fields p : List (String × Json)) : Prop :=
  ∃ value, Json.field? name fields = some value ∧ Held p value

/-- The demands on parameters under a field are those on its value. -/
theorem demandsUnder_eq {owner name : String} {fields : List (String × Json)}
    (regular : ∀ value, Json.field? name fields = some value → Regular value) :
  demandsUnder owner name fields = ((Json.field? name fields).map (demandsOf owner)).getD []
  := by
  rw [demandsUnder]
  cases found : Json.field? name fields with
  | none => rfl
  | some value =>
      -- a value that does not hold is null or an empty list, which have no demands anyway
      obtain _ | ⟨objects⟩ := regular value found
      · rfl
      · next items _ _ _ => cases items <;> rfl

/-- The demands on parameters under a field are met when each of them has a type. -/
theorem met_demandsUnder_iff (owner : String) {name : String} {fields : List (String × Json)}
    (regular : ∀ value, Json.field? name fields = some value → Regular value) :
  (∀ d ∈ demandsUnder owner name fields, d.fault? = none)
    ↔ ∀ p, HeldUnder name fields p → Json.textOf "type" p ≠ ""
  := by
  rw [demandsUnder_eq regular]
  cases found : Json.field? name fields with
  | none => simp [HeldUnder, found]
  | some value =>
      simp only [Option.map_some, Option.getD_some, HeldUnder, found, Option.some.injEq,
        exists_eq_left']
      apply met_demandsOf_iff (regular value found)

/-- The demands on parameters under a field are not on shapes. -/
theorem ne_shape_of_mem_demandsUnder {owner name : String} {fields : List (String × Json)}
    (regular : ∀ value, Json.field? name fields = some value → Regular value) {d : Demand}
    (h : d ∈ demandsUnder owner name fields) (fault : Fault) :
  d ≠ .shape fault
  := by
  rw [demandsUnder_eq regular] at h
  cases found : Json.field? name fields with
  | none =>
      rw [found] at h
      cases h
  | some value =>
      rw [found] at h
      obtain ⟨p, -, rfl⟩ := (mem_demandsOf_iff (regular value found) d).mp h
      rintro ⟨⟩

end Parameter

/-! ## Entries -/

namespace Member

/-- The fields of an entry whose type, name and mutability are texts, null or absent, and whose
inputs and outputs are regular or absent. -/
@[mk_iff]
structure Regular (fields : List (String × Json)) : Prop where
  type : Json.Textual "type" fields
  name : Json.Textual "name" fields
  mutability : Json.Textual "stateMutability" fields
  inputs : ∀ value, Json.field? "inputs" fields = some value → Parameter.Regular value
  outputs : ∀ value, Json.field? "outputs" fields = some value → Parameter.Regular value

/-- The fields of an entry that is malformed: a function or an event without a name, a member
with a parameter that has no type, one with a mutability that is not known, or an entry of a kind
that is not known. -/
inductive Malformed (fields : List (String × Json)) : Prop where
  | unnamed {word : String} (kind : kindOf fields = .text word) (h : word ∈ ["function", "event"])
    (name : Json.textOf "name" fields = "")
  | untyped {name : String} (used : name ∈ parameterFields (kindOf fields))
    {p : List (String × Json)} (held : Parameter.HeldUnder name fields p)
    (type : Json.textOf "type" p = "")
  | unknownMutability {word : String} (kind : kindOf fields = .text word)
    (h : word ∈ ["function", "constructor", "fallback"])
    (given : Json.textOf "stateMutability" fields ≠ "")
    (unknown : Json.textOf "stateMutability" fields ∉ Mutability.words)
  | unknownKind (unknown : ∀ word ∈ passedOver ++ kinds, kindOf fields ≠ .text word)

/-- The demand on a mutability is met when it is empty or known. -/
theorem met_mutabilityDemand_iff {fields : List (String × Json)}
    (textual : Json.Textual "stateMutability" fields) :
  (mutabilityDemand fields).fault? = none
    ↔ Json.textOf "stateMutability" fields = ""
      ∨ Json.textOf "stateMutability" fields ∈ Mutability.words
  := by
  rw [mutabilityDemand]
  cases found : Json.field? "stateMutability" fields with
  | none => simp [Demand.fault?, Json.textOf, found]
  | some stated =>
      obtain rfl | ⟨word, rfl⟩ := textual stated found
      · simp [Demand.fault?, Json.textOf, found, Json.holds]
      · simp [Demand.fault?, Json.textOf, found, Json.holds, Json.kind, Json.word,
          or_iff_not_imp_left]

/-- What is asked of an entry whose kind is that of a word. -/
@[mk_iff]
structure Sound (word : String) (fields : List (String × Json)) : Prop where
  named : word ∈ ["function", "event"] → Json.textOf "name" fields ≠ ""
  typed : ∀ name ∈ parameterFields (.text word), ∀ p, Parameter.HeldUnder name fields p →
    Json.textOf "type" p ≠ ""
  mutable : word ∈ ["function", "constructor", "fallback"] →
    Json.textOf "stateMutability" fields = ""
      ∨ Json.textOf "stateMutability" fields ∈ Mutability.words

/-- An entry is not malformed when its kind is known and what this kind asks for is there. -/
theorem not_malformed_iff {fields : List (String × Json)} :
  ¬ Malformed fields
    ↔ ∃ word ∈ passedOver ++ kinds, kindOf fields = .text word ∧ Sound word fields
  := by
  constructor
  · intro fine
    have known : ∃ word ∈ passedOver ++ kinds, kindOf fields = .text word := by
      by_contra unknown
      push Not at unknown
      apply fine (.unknownKind unknown)
    obtain ⟨word, known, kind⟩ := known
    use word, known, kind
    constructor
    · intro asked unnamed
      apply fine (.unnamed kind asked unnamed)
    · intro name used p held untyped
      apply fine (.untyped (kind ▸ used) held untyped)
    · intro asked
      by_contra unknown
      rw [not_or] at unknown
      apply fine (.unknownMutability kind asked unknown.1 unknown.2)
  · rintro ⟨word, known, kind, sound⟩ malformed
    cases malformed with
    | unnamed kind' asked unnamed =>
        obtain rfl := Json.text.inj (kind.symm.trans kind')
        apply sound.named asked unnamed
    | untyped used held untyped =>
        rw [kind] at used
        apply sound.typed _ used _ held untyped
    | unknownMutability kind' asked given unknown =>
        obtain rfl := Json.text.inj (kind.symm.trans kind')
        apply (sound.mutable asked).elim given unknown
    | unknownKind unknown => apply unknown word known kind

/-- The demands on a regular entry of a known kind, after that on its kind, are met when what the
kind asks for is there. -/
theorem met_demandsFor_iff (position : Nat) {fields : List (String × Json)}
    (regular : Regular fields) {word : String} (known : word ∈ passedOver ++ kinds) :
  (∀ d ∈ demandsFor position fields word, d.fault? = none) ↔ Sound word fields
  := by
  have inputs := Parameter.met_demandsUnder_iff (ownerOf position fields) regular.inputs
  have outputs := Parameter.met_demandsUnder_iff (ownerOf position fields) regular.outputs
  have mutability := met_mutabilityDemand_iff regular.mutability
  rw [sound_iff, ← mutability]
  simp only [passedOver, kinds, List.cons_append, List.nil_append, List.mem_cons,
    List.not_mem_nil, or_false] at known
  obtain rfl | rfl | rfl | rfl | rfl | rfl := known
  all_goals
    simp [demandsFor, parameterFields, Demand.fault?_name_eq_none_iff, or_imp, forall_and, inputs,
      outputs, and_assoc]

/-- The demands on a regular entry are met if and only if it is not malformed. -/
theorem met_demands_iff (position : Nat) {fields : List (String × Json)}
    (regular : Regular fields) :
  (∀ d ∈ demands position (.object fields), d.fault? = none) ↔ ¬ Malformed fields
  := by
  rw [demands, List.forall_mem_cons, met_kindDemand_iff, not_malformed_iff]
  constructor
  · rintro ⟨⟨word, known, kind⟩, rest⟩
    rw [kind] at rest
    use word, known, kind
    exact (met_demandsFor_iff position regular known).mp rest
  · rintro ⟨word, known, kind, sound⟩
    rw [kind]
    use ⟨word, known, rfl⟩
    exact (met_demandsFor_iff position regular known).mpr sound

/-- There is no fault of a demand on a regular entry if and only if it is not malformed. -/
theorem findSome?_demands_eq_none_iff (position : Nat) {fields : List (String × Json)}
    (regular : Regular fields) :
  (demands position (.object fields)).findSome? Demand.fault? = none ↔ ¬ Malformed fields
  := by
  rw [List.findSome?_eq_none_iff, met_demands_iff position regular]

/-- There is no fault of a demand on regular entries if and only if none of them is malformed. -/
theorem findSome?_demandsAll_eq_none_iff (position : Nat) {entries : List (List (String × Json))}
    (regular : ∀ fields ∈ entries, Regular fields) :
  (demandsAll position (entries.map .object)).findSome? Demand.fault? = none
    ↔ ∀ fields ∈ entries, ¬ Malformed fields
  := by
  induction entries generalizing position with
  | nil => simp [demandsAll]
  | cons fields rest ih =>
      rw [List.forall_mem_cons] at regular
      rw [List.map_cons, demandsAll, List.findSome?_append, Option.or_eq_none_iff,
        findSome?_demands_eq_none_iff position regular.1, ih _ regular.2, List.forall_mem_cons]

/-- The first fault of the demands on regular entries is that of the first demand on the
earliest entry that is malformed. -/
theorem findSome?_demandsAll_eq_some_iff (position : Nat) {entries : List (List (String × Json))}
    (regular : ∀ fields ∈ entries, Regular fields) (fault : Fault) :
  (demandsAll position (entries.map .object)).findSome? Demand.fault? = some fault
    ↔ ∃ before fields after, entries = before ++ fields :: after
      ∧ (∀ earlier ∈ before, ¬ Malformed earlier)
      ∧ (demands (position + before.length) (.object fields)).findSome? Demand.fault? = some fault
  := by
  induction entries generalizing position with
  | nil => simp [demandsAll]
  | cons first rest ih =>
      rw [List.forall_mem_cons] at regular
      rw [List.map_cons, demandsAll, List.findSome?_append, Option.or_eq_some_iff,
        findSome?_demands_eq_none_iff position regular.1, ih _ regular.2]
      constructor
      · rintro (here | ⟨fine, before, fields, after, rfl, earlier, there⟩)
        · use [], first, rest, rfl, List.forall_mem_nil _, here
        · use first :: before, fields, after, rfl, List.forall_mem_cons.mpr ⟨fine, earlier⟩
          rw [List.length_cons, Nat.add_comm before.length, ← Nat.add_assoc]
          apply there
      · rintro ⟨_ | ⟨entry, before⟩, fields, after, split, earlier, there⟩
        · obtain ⟨rfl, rfl⟩ := List.cons.inj split
          apply Or.inl there
        · obtain ⟨rfl, rfl⟩ := List.cons.inj split
          rw [List.forall_mem_cons] at earlier
          rw [List.length_cons, Nat.add_comm before.length, ← Nat.add_assoc] at there
          apply Or.inr ⟨earlier.1, before, fields, after, rfl, earlier.2, there⟩

/-- A regular entry states a plain kind. -/
theorem kindDemand_of_regular {fields : List (String × Json)} (regular : Regular fields)
    (owner : String) :
  kindDemand owner (kindOf fields) = .kind owner (kindOf fields)
  := by
  apply if_pos
  rw [kindOf]
  cases found : Json.field? "type" fields with
  | none => rfl
  | some stated => obtain rfl | ⟨word, rfl⟩ := regular.type stated found <;> rfl

/-- The demands on a regular entry are not on shapes. -/
theorem ne_shape_of_mem_demands {position : Nat} {fields : List (String × Json)}
    (regular : Regular fields) {d : Demand} (h : d ∈ demands position (.object fields))
    (fault : Fault) :
  d ≠ .shape fault
  := by
  rw [demands, kindDemand_of_regular regular, List.mem_cons] at h
  obtain rfl | h := h
  · rintro ⟨⟩
  · unfold demandsFor at h
    split at h
    · rw [List.mem_cons, List.mem_append, List.mem_append, List.mem_singleton] at h
      obtain rfl | h | h | rfl := h
      · rintro ⟨⟩
      · apply Parameter.ne_shape_of_mem_demandsUnder regular.inputs h
      · apply Parameter.ne_shape_of_mem_demandsUnder regular.outputs h
      · rintro ⟨⟩
    · rw [List.mem_append, List.mem_singleton] at h
      obtain h | rfl := h
      · apply Parameter.ne_shape_of_mem_demandsUnder regular.inputs h
      · rintro ⟨⟩
    · rw [List.mem_cons] at h
      obtain rfl | h := h
      · rintro ⟨⟩
      · apply Parameter.ne_shape_of_mem_demandsUnder regular.inputs h
    · obtain rfl := List.mem_singleton.mp h
      rintro ⟨⟩
    · cases h

end Member

/-! ## Interfaces -/

namespace Interface

section

variable (name : String) {entries : List (List (String × Json))}

/-- Regular entries are read as an interface if and only if none of them is malformed. -/
theorem exists_ofEntries?_iff (regular : ∀ fields ∈ entries, Member.Regular fields) :
  (∃ i, ofEntries? name (entries.map .object) = .ok i)
    ↔ ∀ fields ∈ entries, ¬ Member.Malformed fields
  := by
  rw [← Fault.of?_eq_none_iff, of?_ofEntries?, Member.findSome?_demandsAll_eq_none_iff 0 regular]

/-- The fault of regular entries is that of the first demand that is not met on the earliest
malformed entry. -/
theorem ofEntries?_eq_error_iff (regular : ∀ fields ∈ entries, Member.Regular fields)
    (fault : Fault) :
  ofEntries? name (entries.map .object) = .error fault
    ↔ ∃ before fields after, entries = before ++ fields :: after
      ∧ (∀ earlier ∈ before, ¬ Member.Malformed earlier)
      ∧ ∃ met d rest, Member.demands before.length (.object fields) = met ++ d :: rest
        ∧ d.fault? = some fault ∧ ∀ c ∈ met, c.fault? = none
  := by
  rw [← Fault.of?_eq_some_iff, of?_ofEntries?, Member.findSome?_demandsAll_eq_some_iff 0 regular]
  simp only [Nat.zero_add, List.findSome?_eq_some_iff]

/-- The fault of regular entries is that of a member. -/
theorem exists_malformedMember_of_ofEntries? (regular : ∀ fields ∈ entries, Member.Regular fields)
    {fault : Fault} (h : ofEntries? name (entries.map .object) = .error fault) :
  ∃ problem label, fault = .malformedMember problem label
  := by
  obtain ⟨before, fields, after, rfl, -, met, d, rest, listed, found, -⟩ :=
    (ofEntries?_eq_error_iff name regular fault).mp h
  have here : d ∈ Member.demands before.length (.object fields) := by
    rw [listed]
    apply List.mem_append_right _ List.mem_cons_self
  have sound := regular fields (List.mem_append_right _ List.mem_cons_self)
  apply Demand.exists_malformedMember (Member.ne_shape_of_mem_demands sound here) found

end

/-- The fault of entries is shared by all entries that have the same demands up to the first one
that is not met. -/
theorem ofEntries?_eq_error_of_reached_isPrefix (name : String) {entries others : List Json}
    {fault : Fault} (h : ofEntries? name entries = .error fault)
    (shared : Fault.reached Demand.fault? (Member.demandsAll 0 entries)
      <+: Member.demandsAll 0 others) :
  ofEntries? name others = .error fault
  := by
  rw [← Fault.of?_eq_some_iff, of?_ofEntries?] at h ⊢
  apply Fault.findSome?_eq_some_of_reached_isPrefix h shared

/-- Regular entries are read as an interface if and only if none of them is malformed.  Otherwise
the fault is that of the first demand that is not met on the earliest malformed entry, and it is
one of a member.  Any entries with the same demands up to this one have the same fault.  Fields
that are not used have no effect. -/
theorem ofEntries?_outcome (name : String) {entries : List (List (String × Json))}
    (regular : ∀ fields ∈ entries, Member.Regular fields) :
  ((∃ i, ofEntries? name (entries.map .object) = .ok i)
      ↔ ∀ fields ∈ entries, ¬ Member.Malformed fields)
  ∧ (∀ fault, ofEntries? name (entries.map .object) = .error fault
      ↔ ∃ before fields after, entries = before ++ fields :: after
        ∧ (∀ earlier ∈ before, ¬ Member.Malformed earlier)
        ∧ ∃ met d rest, Member.demands before.length (.object fields) = met ++ d :: rest
          ∧ d.fault? = some fault ∧ ∀ c ∈ met, c.fault? = none)
  ∧ (∀ fault, ofEntries? name (entries.map .object) = .error fault →
      (∃ problem label, fault = .malformedMember problem label)
      ∧ ∀ others,
        Fault.reached Demand.fault? (Member.demandsAll 0 (entries.map .object))
          <+: Member.demandsAll 0 others →
        ofEntries? name others = .error fault)
  ∧ ofEntries? name ((entries.map .object).map Member.prune)
    = ofEntries? name (entries.map .object)
  := by
  use exists_ofEntries?_iff name regular, ofEntries?_eq_error_iff name regular
  constructor
  · intro fault raised
    use exists_malformedMember_of_ofEntries? name regular raised
    intro others
    apply ofEntries?_eq_error_of_reached_isPrefix name raised
  · apply ofEntries?_prune

/-- Entries of which the first is passed over, and the third declares a constructor with a
component that has no type. -/
def paymentEntries : List (List (String × Json)) :=
  [[("type", .text "error"), ("inputs", .list [.object []])],
    [("type", .text "event"), ("name", .text "Paid"),
      ("inputs", .list [.object [("type", .text "address"), ("indexed", .bool true)]])],
    [("type", .text "constructor"), ("name", .null), ("stateMutability", .text "static"),
      ("inputs", .list
        [.object [("type", .text "tuple"),
          ("components", .list [.object [("type", .text "string")], .object []])]])]]

theorem ofEntries?_outcome_paymentEntries :
  (∀ fields ∈ paymentEntries, Member.Regular fields)
    ∧ (∃ fields ∈ paymentEntries, Member.Malformed fields)
    ∧ ∀ more, ofEntries? "Payments" (paymentEntries.map .object ++ more)
      = .error (.malformedMember .parameterWithoutType "member #2")
  := by
  have refusals : Parameter.Regular (.list [.object []]) := by
    apply Parameter.Regular.of_list
    simp [Json.Textual, Json.field?_nil]
  have payers : Parameter.Regular
      (.list [.object [("type", .text "address"), ("indexed", .bool true)]]) := by
    apply Parameter.Regular.of_list
    simp [Json.Textual, Json.field?_cons, Json.field?_nil]
  have sums : Parameter.Regular (.list [.object [("type", .text "string")], .object []]) := by
    apply Parameter.Regular.of_list
    simp [Json.Textual, Json.field?_cons, Json.field?_nil]
  have items : Parameter.Regular (.list [.object [("type", .text "tuple"),
      ("components", .list [.object [("type", .text "string")], .object []])]]) := by
    apply Parameter.Regular.of_list
    simp [Json.Textual, Json.field?_cons, Json.field?_nil, sums]
  have regular : ∀ fields ∈ paymentEntries, Member.Regular fields := by
    simp [paymentEntries, Member.regular_iff, Json.Textual, Json.field?_cons, Json.field?_nil,
      refusals, payers, items]
  have refused : ofEntries? "Payments" (paymentEntries.map .object)
      = .error (.malformedMember .parameterWithoutType "member #2") := by
    rfl
  obtain ⟨read, -, decided, -⟩ := ofEntries?_outcome "Payments" regular
  use regular
  constructor
  · by_contra fine
    push Not at fine
    obtain ⟨i, read⟩ := read.mpr fine
    cases refused.symm.trans read
  · intro more
    apply (decided _ refused).2
    exact ⟨_, rfl⟩

end Interface

end ContractBindings
