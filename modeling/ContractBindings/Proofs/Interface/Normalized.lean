import ContractBindings.Interface.Entry
import ContractBindings.Proofs.Fault

/-!
# Normalized interfaces

An interface is normalized when its functions and events have names, its parameters have types
and no empty names at any depth, and each stated mutability is one of the known words.  What is
read from entries is always normalized.
-/

namespace ContractBindings

/-! ## Spellings -/

theorem Decimal.text_ne_empty (d : Decimal) :
  d.text ≠ ""
  := by
  rw [text]
  split
  · simp [positional]
  · simp [scientific, exponentPart]

theorem Double.text_ne_empty (x : Double) :
  x.text ≠ ""
  := by
  rw [text]
  split
  · split
    · simp
    · split
      · decide
      · simp [Decimal.text_ne_empty]
  · split
    · split <;> decide
    · decide

theorem Number.text_ne_empty (n : Number) :
  n.text ≠ ""
  := by
  cases n with
  | whole value => cases value <;> simp [text, toString, Int.repr]
  | decimal value => apply Double.text_ne_empty

/-- The spelling of a value that counts as given is not empty. -/
theorem Json.word_ne_empty {value : Json} (h : value.holds) :
  value.word ≠ ""
  := by
  cases value with
  | null => cases h
  | bool truth => cases truth <;> decide
  | number n => apply Number.text_ne_empty
  | text spelled => simpa [holds, word] using h
  | list items => simp [word]
  | object fields => simp [word]

/-! ## Parameters -/

namespace Parameter

mutual

/-- A parameter with a type and without empty names, at every depth. -/
def Normalized : Parameter → Prop
  | ⟨type, name, _, components⟩ => type ≠ "" ∧ name ≠ some "" ∧ NormalizedComponents components

/-- Components, if there are any, that are normalized. -/
def NormalizedComponents : Option (List Parameter) → Prop
  | none => True
  | some ps => NormalizedAll ps

/-- Parameters that are normalized. -/
def NormalizedAll : List Parameter → Prop
  | [] => True
  | p :: ps => p.Normalized ∧ NormalizedAll ps

end

mutual

/-- A parameter that is read is normalized. -/
theorem normalized_of_ofJson? {owner : String} {entry : Json} {p : Parameter}
    (h : ofJson? owner entry = .ok p) :
  p.Normalized
  := by
  obtain _ | _ | _ | _ | _ | fields := entry
  case object =>
    rw [ofJson?] at h
    split at h
    · next type found =>
      split at h
      · next given =>
        obtain ⟨components, read, h⟩ := Fault.bind_eq_ok_iff.mp h
        obtain rfl := Except.ok.inj h
        refine ⟨Json.word_ne_empty given, ?_, ?_⟩
        · split
          · rintro ⟨⟩
          · next named =>
            intro same
            apply named (Option.some.inj same)
        · apply normalizedComponents_of_componentsOf? read
      · cases h
    · cases h
  all_goals cases h

/-- The components among the fields of an entry are normalized. -/
theorem normalizedComponents_of_componentsOf? {owner : String} {fields : List (String × Json)}
    {components : Option (List Parameter)} (h : componentsOf? owner fields = .ok components) :
  NormalizedComponents components
  := by
  obtain _ | ⟨⟨key, value⟩, rest⟩ := fields
  · obtain rfl := Except.ok.inj h
    trivial
  · rw [componentsOf?] at h
    split at h
    · apply normalizedComponents_of_components? h
    · apply normalizedComponents_of_componentsOf? h

/-- Components that are read are normalized. -/
theorem normalizedComponents_of_components? {owner : String} {value : Json}
    {components : Option (List Parameter)} (h : components? owner value = .ok components) :
  NormalizedComponents components
  := by
  obtain _ | _ | _ | text | items | fields := value
  case null =>
    obtain rfl := Except.ok.inj h
    trivial
  case list =>
    obtain ⟨ps, read, h⟩ := Fault.bind_eq_ok_iff.mp h
    obtain rfl := Except.ok.inj h
    apply normalizedAll_of_ofList? read
  case text =>
    rw [components?] at h
    split at h
    · obtain rfl := Except.ok.inj h
      trivial
    · cases h
  case object =>
    rw [components?] at h
    split at h
    · obtain rfl := Except.ok.inj h
      trivial
    · cases h
  all_goals cases h

/-- Parameters that are read are normalized. -/
theorem normalizedAll_of_ofList? {owner : String} {items : List Json} {ps : List Parameter}
    (h : ofList? owner items = .ok ps) :
  NormalizedAll ps
  := by
  obtain _ | ⟨item, rest⟩ := items
  · obtain rfl := Except.ok.inj h
    trivial
  · obtain ⟨p, first, h⟩ := Fault.bind_eq_ok_iff.mp h
    obtain ⟨ps, later, h⟩ := Fault.bind_eq_ok_iff.mp h
    obtain rfl := Except.ok.inj h
    use normalized_of_ofJson? first
    apply normalizedAll_of_ofList? later

end

/-- The parameters under a field of an entry are normalized. -/
theorem normalizedAll_of_underField? {owner name : String} {fields : List (String × Json)}
    {ps : List Parameter} (h : underField? owner name fields = .ok ps) :
  NormalizedAll ps
  := by
  rw [underField?] at h
  split at h
  · obtain rfl := Except.ok.inj h
    trivial
  · split at h
    · obtain ⟨components, read, h⟩ := Fault.bind_eq_ok_iff.mp h
      have normalized := normalizedComponents_of_components? read
      obtain rfl := Except.ok.inj h
      cases components with
      | none => trivial
      | some ps => apply normalized
    · obtain rfl := Except.ok.inj h
      trivial

end Parameter

/-! ## Members -/

/-- The mutability that an entry declares is one of the known words. -/
theorem Mutability.mem_words_of_ofFields? {fields : List (String × Json)} {mutability : String}
    (h : ofFields? fields = .ok mutability) :
  mutability ∈ words
  := by
  have flags : ofFields?.ofFlags fields ∈ words := by
    rw [ofFields?.ofFlags]
    split
    · decide
    · split <;> decide
  rw [ofFields?] at h
  split at h
  · split at h
    · split at h
      · next known =>
        obtain rfl := Except.ok.inj h
        apply known.2
      · cases h
    · obtain rfl := Except.ok.inj h
      apply flags
  · obtain rfl := Except.ok.inj h
    apply flags

namespace Member

/-- The kind that an entry states, that of a function if it states none. -/
def kindOf (fields : List (String × Json)) : Json :=
  (Json.field? "type" fields).getD (.text "function")

/-- What the member of an entry is called in messages. -/
def ownerOf (position : Nat) (fields : List (String × Json)) : String :=
  if Json.textOf "name" fields = "" then "member #" ++ toString position
  else Json.textOf "name" fields

/-- What the fields of an entry at a position are read as, by the kind that they state. -/
inductive ReadAs (position : Nat) (fields : List (String × Json)) :
    Option (Member Parameter) → Prop where
  | passedOver {word : String} (kind : kindOf fields = .text word) (known : word ∈ passedOver) :
    ReadAs position fields none
  | function {inputs outputs : List Parameter} {mutability : String}
    (kind : kindOf fields = .text "function") (named : Json.textOf "name" fields ≠ "")
    (taken : Parameter.underField? (ownerOf position fields) "inputs" fields = .ok inputs)
    (returned : Parameter.underField? (ownerOf position fields) "outputs" fields = .ok outputs)
    (stated : Mutability.ofFields? fields = .ok mutability) :
    ReadAs position fields
      (some (.function ⟨Json.textOf "name" fields, inputs, outputs, mutability⟩))
  | constructor {inputs : List Parameter} {mutability : String}
    (kind : kindOf fields = .text "constructor")
    (taken : Parameter.underField? (ownerOf position fields) "inputs" fields = .ok inputs)
    (stated : Mutability.ofFields? fields = .ok mutability) :
    ReadAs position fields (some (.constructor inputs mutability))
  | event {inputs : List Parameter} (kind : kindOf fields = .text "event")
    (named : Json.textOf "name" fields ≠ "")
    (taken : Parameter.underField? (ownerOf position fields) "inputs" fields = .ok inputs) :
    ReadAs position fields
      (some (.event ⟨Json.textOf "name" fields, inputs, Json.flag "anonymous" fields⟩))
  | fallback {mutability : String} (kind : kindOf fields = .text "fallback")
    (stated : Mutability.ofFields? fields = .ok mutability) :
    ReadAs position fields (some (.fallback mutability))

/-- An entry is read as what its fields are, by the kind that they state. -/
theorem readAs_of_ofJson? {position : Nat} {fields : List (String × Json)}
    {m : Option (Member Parameter)} (h : ofJson? position (.object fields) = .ok m) :
  ReadAs position fields m
  := by
  simp only [ofJson?] at h
  rw [← kindOf, ← ownerOf] at h
  split at h
  · next word kind =>
    split_ifs at h with known isFunction unnamed isConstructor isEvent unnamed isFallback
    · obtain rfl := Except.ok.inj h
      apply ReadAs.passedOver kind known
    · subst isFunction
      obtain ⟨inputs, taken, h⟩ := Fault.bind_eq_ok_iff.mp h
      obtain ⟨outputs, returned, h⟩ := Fault.bind_eq_ok_iff.mp h
      obtain ⟨mutability, stated, h⟩ := Fault.bind_eq_ok_iff.mp h
      obtain rfl := Except.ok.inj h
      apply ReadAs.function kind unnamed taken returned stated
    · subst isConstructor
      obtain ⟨inputs, taken, h⟩ := Fault.bind_eq_ok_iff.mp h
      obtain ⟨mutability, stated, h⟩ := Fault.bind_eq_ok_iff.mp h
      obtain rfl := Except.ok.inj h
      apply ReadAs.constructor kind taken stated
    · subst isEvent
      obtain ⟨inputs, taken, h⟩ := Fault.bind_eq_ok_iff.mp h
      obtain rfl := Except.ok.inj h
      apply ReadAs.event kind unnamed taken
    · subst isFallback
      obtain ⟨mutability, stated, h⟩ := Fault.bind_eq_ok_iff.mp h
      obtain rfl := Except.ok.inj h
      apply ReadAs.fallback kind stated
  · split at h <;> cases h

/-- What the fields of an entry are is what it is read as. -/
theorem ReadAs.ofJson?_eq {position : Nat} {fields : List (String × Json)}
    {m : Option (Member Parameter)} (h : ReadAs position fields m) :
  ofJson? position (.object fields) = .ok m
  := by
  simp only [ofJson?]
  rw [← kindOf, ← ownerOf]
  cases h with
  | passedOver kind known =>
      simp only [kind]
      apply if_pos known
  | function kind named taken returned stated =>
      simp only [kind, if_neg named, taken, returned, stated]
      rfl
  | constructor kind taken stated =>
      simp only [kind, taken, stated]
      rfl
  | event kind named taken =>
      simp only [kind, if_neg named, taken]
      rfl
  | fallback kind stated =>
      simp only [kind, stated]
      rfl

/-- A member with a name, if it has to have one, with normalized parameters and a known
mutability. -/
def Normalized : Member Parameter → Prop
  | function f => f.name ≠ "" ∧ Parameter.NormalizedAll f.inputs
      ∧ Parameter.NormalizedAll f.outputs ∧ f.mutability ∈ Mutability.words
  | constructor inputs mutability =>
    Parameter.NormalizedAll inputs ∧ mutability ∈ Mutability.words
  | event e => e.name ≠ "" ∧ Parameter.NormalizedAll e.inputs
  | fallback mutability => mutability ∈ Mutability.words

/-- A member that is read is normalized. -/
theorem normalized_of_readAs {position : Nat} {fields : List (String × Json)}
    {m : Member Parameter} (h : ReadAs position fields (some m)) :
  m.Normalized
  := by
  cases h with
  | function _ named taken returned stated =>
      exact ⟨named, Parameter.normalizedAll_of_underField? taken,
        Parameter.normalizedAll_of_underField? returned, Mutability.mem_words_of_ofFields? stated⟩
  | constructor _ taken stated =>
      exact ⟨Parameter.normalizedAll_of_underField? taken,
        Mutability.mem_words_of_ofFields? stated⟩
  | event _ named taken => exact ⟨named, Parameter.normalizedAll_of_underField? taken⟩
  | fallback _ stated => exact Mutability.mem_words_of_ofFields? stated

/-- Members that are read are normalized. -/
theorem normalized_of_ofEntries? {position : Nat} {entries : List Json}
    {ms : List (Member Parameter)} (h : ofEntries? position entries = .ok ms) :
  ∀ m ∈ ms, m.Normalized
  := by
  induction entries generalizing position ms with
  | nil =>
      obtain rfl := Except.ok.inj h
      apply List.forall_mem_nil
  | cons entry rest ih =>
      obtain ⟨member, first, h⟩ := Fault.bind_eq_ok_iff.mp h
      obtain ⟨later, read, h⟩ := Fault.bind_eq_ok_iff.mp h
      obtain rfl := Except.ok.inj h
      rw [List.forall_mem_append]
      constructor
      · intro m made
        rw [Option.mem_toList] at made
        obtain rfl := Option.mem_def.mp made
        obtain _ | _ | _ | _ | _ | fields := entry
        case object => apply normalized_of_readAs (readAs_of_ofJson? first)
        all_goals cases first
      · apply ih read

end Member

/-- An interface whose members are normalized. -/
def Interface.Normalized (i : Interface Parameter) : Prop :=
  ∀ m ∈ i.members, m.Normalized

end ContractBindings
