import ContractBindings.Proofs.Interface.Normalized

/-!
# Demands on entries

What is demanded when an interface is read from entries, in order: of an entry a known kind, a
name, a type for each of its inputs and outputs and for their components after them, and a known
mutability, as far as the kind of the entry asks for these.  A demand holds just what it looks
at, with what the member is called in messages, so that nothing else decides its fault.

`Interface.of?_ofEntries?` says that reading fails with the fault of the first demand that is
not met.
-/

namespace ContractBindings

/-- Something that is demanded of an entry. -/
inductive Demand where
  /-- A value of another sort than the one that is expected: neither an object nor a list, or not
  plain. -/
  | shape (fault : Fault)
  | kind (owner : String) (stated : Json)
  | name (problem : Problem) (owner given : String)
  | type (owner : String) (stated : Option Json)
  | mutability (label : String) (stated : Option Json)

/-- A value is of the kind of texts when it is a text. -/
theorem Json.kind_eq_text_iff (value : Json) :
  value.kind = .text ↔ ∃ word, value = .text word
  := by
  cases value with
  | number value => cases value <;> simp [kind]
  | _ => simp [kind]

namespace Member

/-- The kinds of entries that declare a member. -/
def kinds : List String :=
  ["function", "constructor", "event", "fallback"]

end Member

namespace Demand

/-- The fault of a demand that is not met. -/
def fault? : Demand → Option Fault
  | shape fault => some fault
  | kind owner stated =>
    if stated.kind = .text ∧ stated.word ∈ Member.passedOver ++ Member.kinds then none
    else some (.malformedMember (.unknownKind stated.word) owner)
  | name problem owner given =>
    if given = "" then some (.malformedMember problem owner) else none
  | type owner stated =>
    if stated.any Json.holds then none else some (.malformedMember .parameterWithoutType owner)
  | mutability _ none => none
  | mutability label (some stated) =>
    if ¬ stated.holds ∨ stated.kind = .text ∧ stated.word ∈ Mutability.words then none
    else some (.malformedMember (.unknownMutability stated.word) label)

end Demand

/-! ## Parameters -/

namespace Parameter

mutual

/-- The demands on the parameter that an entry declares. -/
def demands (owner : String) : Json → List Demand
  | .object fields => .type owner (Json.field? "type" fields) :: demandsIn owner fields
  | value => [.shape (.notAnObject value.kind)]

/-- The demands on the components among the fields of an entry. -/
def demandsIn (owner : String) : List (String × Json) → List Demand
  | [] => []
  | (key, value) :: rest =>
    if key = "components" then demandsOf owner value else demandsIn owner rest

/-- The demands on the components that a value declares. -/
def demandsOf (owner : String) : Json → List Demand
  | .null => []
  | .list items => demandsAll owner items
  | .text value => if value = "" then [] else [.shape (.notAnObject .text)]
  | .object fields => if fields.isEmpty then [] else [.shape (.notAnObject .text)]
  | value => [.shape (.notAList value.kind)]

/-- The demands on the parameters that a list of entries declares. -/
def demandsAll (owner : String) : List Json → List Demand
  | [] => []
  | item :: rest => demands owner item ++ demandsAll owner rest

end

/-- The demands on the parameters under a field of an entry. -/
def demandsUnder (owner name : String) (fields : List (String × Json)) : List Demand :=
  match Json.field? name fields with
  | none => []
  | some value => if value.holds then demandsOf owner value else []

mutual

/-- A parameter is read with the fault of its first demand that is not met. -/
theorem of?_ofJson? (owner : String) (entry : Json) :
  Fault.of? (ofJson? owner entry) = (demands owner entry).findSome? Demand.fault?
  := by
  obtain _ | _ | _ | _ | _ | fields := entry
  case object =>
    rw [ofJson?, demands, List.findSome?_cons, Demand.fault?]
    split
    · next type found =>
      rw [found, Option.any_some]
      split
      · rw [Fault.of?_bind_pure, of?_componentsOf?]
      · rfl
    · next none =>
      rw [none]
      rfl
  all_goals rfl

/-- The components among the fields of an entry are read with the fault of their first demand
that is not met. -/
theorem of?_componentsOf? (owner : String) (fields : List (String × Json)) :
  Fault.of? (componentsOf? owner fields) = (demandsIn owner fields).findSome? Demand.fault?
  := by
  obtain _ | ⟨⟨key, value⟩, rest⟩ := fields
  · rfl
  · rw [componentsOf?, demandsIn]
    split
    · apply of?_components?
    · apply of?_componentsOf?

/-- Components are read with the fault of their first demand that is not met. -/
theorem of?_components? (owner : String) (value : Json) :
  Fault.of? (components? owner value) = (demandsOf owner value).findSome? Demand.fault?
  := by
  obtain _ | _ | _ | text | items | fields := value
  case list =>
    rw [components?, demandsOf, Fault.of?_bind_pure]
    apply of?_ofList?
  case text =>
    rw [components?, demandsOf]
    split <;> rfl
  case object =>
    rw [components?, demandsOf]
    split <;> rfl
  all_goals rfl

/-- Parameters are read with the fault of their first demand that is not met. -/
theorem of?_ofList? (owner : String) (items : List Json) :
  Fault.of? (ofList? owner items) = (demandsAll owner items).findSome? Demand.fault?
  := by
  obtain _ | ⟨item, rest⟩ := items
  · rfl
  · rw [ofList?, demandsAll, List.findSome?_append, ← of?_ofJson?, ← of?_ofList?]
    apply Fault.of?_bind
    intro p _
    apply Fault.of?_bind_pure

end

/-- The parameters under a field are read with the fault of their first demand that is not met. -/
theorem of?_underField? (owner name : String) (fields : List (String × Json)) :
  Fault.of? (underField? owner name fields)
    = (demandsUnder owner name fields).findSome? Demand.fault?
  := by
  rw [underField?, demandsUnder]
  cases Json.field? name fields with
  | none => rfl
  | some value =>
      by_cases given : value.holds
      · simp only [if_pos given]
        rw [Fault.of?_bind_pure]
        apply of?_components?
      · simp only [if_neg given]
        rfl

end Parameter

/-- The mutability is read with the fault of its demand. -/
theorem Mutability.of?_ofFields? (fields : List (String × Json)) :
  Fault.of? (ofFields? fields)
    = (Demand.mutability (Json.textOf "name" fields) (Json.field? "stateMutability" fields)).fault?
  := by
  rw [ofFields?]
  cases Json.field? "stateMutability" fields with
  | none => rfl
  | some stated =>
      rw [Demand.fault?]
      by_cases given : stated.holds
      · by_cases known : stated.kind = .text ∧ stated.word ∈ words
        · simp only [if_pos given, if_pos known, if_pos (Or.inr known)]
          rfl
        · simp only [if_pos given, if_neg known, if_neg (not_or.mpr ⟨not_not.mpr given, known⟩)]
          rfl
      · simp only [if_neg given, if_pos (Or.inl given)]
        rfl

/-! ## Entries -/

namespace Member

/-- The demand on the mutability that an entry declares. -/
def mutabilityDemand (fields : List (String × Json)) : Demand :=
  .mutability (Json.textOf "name" fields) (Json.field? "stateMutability" fields)

/-- The demands after that on its kind, on an entry of the kind that a word stands for. -/
def demandsFor (position : Nat) (fields : List (String × Json)) : String → List Demand
  | "function" =>
    .name .functionWithoutName (ownerOf position fields) (Json.textOf "name" fields)
      :: (Parameter.demandsUnder (ownerOf position fields) "inputs" fields
        ++ (Parameter.demandsUnder (ownerOf position fields) "outputs" fields
          ++ [mutabilityDemand fields]))
  | "constructor" =>
    Parameter.demandsUnder (ownerOf position fields) "inputs" fields ++ [mutabilityDemand fields]
  | "event" =>
    .name .eventWithoutName (ownerOf position fields) (Json.textOf "name" fields)
      :: Parameter.demandsUnder (ownerOf position fields) "inputs" fields
  | "fallback" => [mutabilityDemand fields]
  | _ => []

/-- The demand on the kind that an entry states, which has to be plain. -/
def kindDemand (owner : String) (stated : Json) : Demand :=
  if stated.kind.isPlain then .kind owner stated else .shape (.notPlain stated.kind)

/-- The demands on the entry at a position. -/
def demands (position : Nat) : Json → List Demand
  | .object fields =>
    kindDemand (ownerOf position fields) (kindOf fields)
      :: demandsFor position fields (kindOf fields).word
  | value => [.shape (.notAnObject value.kind)]

/-- The demands on a list of entries, the first of them at a position. -/
def demandsAll (position : Nat) : List Json → List Demand
  | [] => []
  | entry :: rest => demands position entry ++ demandsAll (position + 1) rest

/-- The demand on a kind is met when it is the word of a known one. -/
theorem met_kindDemand_iff (owner : String) (stated : Json) :
  (kindDemand owner stated).fault? = none ↔ ∃ word ∈ passedOver ++ kinds, stated = .text word
  := by
  constructor
  · intro met
    rw [kindDemand] at met
    split at met
    · rw [Demand.fault?, ite_eq_left_iff] at met
      by_contra unknown
      cases met (by
        rintro ⟨text, known⟩
        obtain ⟨word, rfl⟩ := (Json.kind_eq_text_iff stated).mp text
        apply unknown ⟨word, known, rfl⟩)
    · cases met
  · rintro ⟨word, known, rfl⟩
    apply if_pos ⟨rfl, known⟩

/-- An entry of a known kind is read with the fault of the demands after that on its kind. -/
theorem of?_ofJson?_of_known {position : Nat} {fields : List (String × Json)} {word : String}
    (kind : kindOf fields = .text word) (known : word ∈ passedOver ++ kinds) :
  Fault.of? (ofJson? position (.object fields))
    = (demandsFor position fields word).findSome? Demand.fault?
  := by
  simp only [ofJson?]
  rw [← kindOf, ← ownerOf, kind]
  simp only [passedOver, kinds, List.cons_append, List.nil_append, List.mem_cons,
    List.not_mem_nil, or_false] at known
  obtain rfl | rfl | rfl | rfl | rfl | rfl := known
  · rfl
  · rfl
  · -- function
    change Fault.of? (if Json.textOf "name" fields = "" then .error _ else _) = _
    rw [Fault.of?_ite, demandsFor, ← List.singleton_append, List.findSome?_append,
      List.findSome?_append, List.findSome?_append, List.findSome?_singleton,
      List.findSome?_singleton, ← Parameter.of?_underField?, ← Parameter.of?_underField?,
      mutabilityDemand, ← Mutability.of?_ofFields?, Demand.fault?]
    congr 1
    apply Fault.of?_bind
    intro inputs _
    apply Fault.of?_bind
    intro outputs _
    apply Fault.of?_bind_pure
  · -- constructor
    rw [demandsFor, List.findSome?_append, List.findSome?_singleton, ← Parameter.of?_underField?,
      mutabilityDemand, ← Mutability.of?_ofFields?]
    apply Fault.of?_bind
    intro inputs _
    apply Fault.of?_bind_pure
  · -- event
    change Fault.of? (if Json.textOf "name" fields = "" then .error _ else _) = _
    rw [Fault.of?_ite, demandsFor, ← List.singleton_append, List.findSome?_append,
      List.findSome?_singleton, ← Parameter.of?_underField?, Demand.fault?]
    congr 1
    apply Fault.of?_bind_pure
  · -- fallback
    rw [demandsFor, List.findSome?_singleton, mutabilityDemand, ← Mutability.of?_ofFields?]
    apply Fault.of?_bind_pure

/-- An entry of any other kind is refused. -/
theorem of?_ofJson?_of_unknown {position : Nat} {fields : List (String × Json)}
    (unknown : ∀ word ∈ passedOver ++ kinds, kindOf fields ≠ .text word) :
  Fault.of? (ofJson? position (.object fields))
    = (kindDemand (ownerOf position fields) (kindOf fields)).fault?
  := by
  simp only [ofJson?]
  rw [← kindOf, ← ownerOf]
  split
  · next word kind =>
    have other : word ∉ passedOver ++ kinds := fun known => unknown word known kind
    have refused : (kindDemand (ownerOf position fields) (.text word)).fault?
        = some (.malformedMember (.unknownKind word) (ownerOf position fields)) := by
      apply if_neg
      rintro ⟨-, known⟩
      apply other known
    simp only [passedOver, kinds, List.cons_append, List.nil_append, List.mem_cons,
      List.not_mem_nil, or_false, not_or] at other
    obtain ⟨error, receive, function, constructor, event, fallback⟩ := other
    have passed : word ∉ passedOver := by simp [passedOver, error, receive]
    rw [kind, refused, if_neg passed, if_neg function, if_neg constructor, if_neg event,
      if_neg fallback]
    rfl
  · next textless =>
    have other : ¬ ((kindOf fields).kind = .text
        ∧ (kindOf fields).word ∈ passedOver ++ kinds) := by
      rintro ⟨text, -⟩
      obtain ⟨word, stated⟩ := (Json.kind_eq_text_iff _).mp text
      apply textless word stated
    rw [kindDemand]
    split
    · rw [Demand.fault?, if_neg other]
      rfl
    · rfl

/-- An entry is read with the fault of its first demand that is not met. -/
theorem of?_ofJson? (position : Nat) (entry : Json) :
  Fault.of? (ofJson? position entry) = (demands position entry).findSome? Demand.fault?
  := by
  obtain _ | _ | _ | _ | _ | fields := entry
  case object =>
    rw [demands, List.findSome?_cons]
    by_cases known : ∃ word ∈ passedOver ++ kinds, kindOf fields = .text word
    · rw [(met_kindDemand_iff _ _).mpr known]
      obtain ⟨word, known, kind⟩ := known
      rw [of?_ofJson?_of_known kind known, kind]
      rfl
    · obtain ⟨fault, unmet⟩ :=
        Option.ne_none_iff_exists'.mp (mt (met_kindDemand_iff (ownerOf position fields) _).mp known)
      rw [of?_ofJson?_of_unknown fun word among stated => known ⟨word, among, stated⟩, unmet]
  all_goals rfl

/-- Entries are read with the fault of their first demand that is not met. -/
theorem of?_ofEntries? (position : Nat) (entries : List Json) :
  Fault.of? (ofEntries? position entries)
    = (demandsAll position entries).findSome? Demand.fault?
  := by
  induction entries generalizing position with
  | nil => rfl
  | cons entry rest ih =>
      rw [ofEntries?, demandsAll, List.findSome?_append, ← of?_ofJson?, ← ih]
      apply Fault.of?_bind
      intro m _
      apply Fault.of?_bind_pure

end Member

/-- An interface is read with the fault of the first demand that is not met. -/
theorem Interface.of?_ofEntries? (name : String) (entries : List Json) :
  Fault.of? (ofEntries? name entries) = (Member.demandsAll 0 entries).findSome? Demand.fault?
  := by
  rw [ofEntries?, Fault.of?_bind_pure]
  apply Member.of?_ofEntries?

end ContractBindings
