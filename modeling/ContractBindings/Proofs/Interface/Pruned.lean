import ContractBindings.Proofs.Interface.Normalized

/-!
# Pruned entries

Each kind of entry uses some fields only, and so does a parameter at any depth.  An entry is
pruned when all other fields are dropped from it, its parameters included.  Pruning entries does
not change what is read from them, be it an interface or a fault: fields that are not used have
no effect.
-/

namespace ContractBindings

theorem Json.field?_nil (name : String) :
  field? name [] = none
  := rfl

theorem Json.field?_cons (name key : String) (value : Json) (rest : List (String × Json)) :
  field? name ((key, value) :: rest) = if name = key then some value else field? name rest
  := by
  rw [field?, field?, List.lookup_cons]
  by_cases h : name = key
  · rw [if_pos h, beq_iff_eq.mpr h]
  · rw [if_neg h, beq_eq_false_iff_ne.mpr h]

/-! ## Parameters -/

namespace Parameter

/-- The fields of a parameter that are used as they stand. -/
def plainFields : List String :=
  ["type", "name", "indexed"]

mutual

/-- A parameter with the fields that are used. -/
def prune : Json → Json
  | .object fields => .object (pruneFields fields)
  | value => value

/-- The fields of a parameter that are used. -/
def pruneFields : List (String × Json) → List (String × Json)
  | [] => []
  | (key, value) :: rest =>
    if key = "components" then (key, pruneItems value) :: pruneFields rest
    else if key ∈ plainFields then (key, value) :: pruneFields rest
    else pruneFields rest

/-- A value with parameters for items, pruned. -/
def pruneItems : Json → Json
  | .list items => .list (pruneAll items)
  | value => value

/-- Parameters that are pruned one by one. -/
def pruneAll : List Json → List Json
  | [] => []
  | item :: rest => prune item :: pruneAll rest

end

theorem field?_pruneFields {name : String} (h : name ∈ plainFields)
    (fields : List (String × Json)) :
  Json.field? name (pruneFields fields) = Json.field? name fields
  := by
  induction fields with
  | nil => rfl
  | cons field rest ih =>
      obtain ⟨key, value⟩ := field
      rw [pruneFields]
      split_ifs with components plain
      · have other : name ≠ key := by
          rintro rfl
          subst components
          revert h
          decide
        rw [Json.field?_cons, Json.field?_cons, if_neg other, if_neg other, ih]
      · rw [Json.field?_cons, Json.field?_cons, ih]
      · have other : name ≠ key := by
          rintro rfl
          exact plain h
        rw [Json.field?_cons, if_neg other, ih]

mutual

/-- A parameter is read as the pruned one. -/
theorem ofJson?_prune (owner : String) (entry : Json) :
  ofJson? owner (prune entry) = ofJson? owner entry
  := by
  obtain _ | _ | _ | _ | _ | fields := entry
  case object =>
    rw [prune, ofJson?, ofJson?, componentsOf?_pruneFields, Json.textOf, Json.textOf, Json.flag,
      Json.flag, field?_pruneFields (by decide), field?_pruneFields (by decide),
      field?_pruneFields (by decide)]
  all_goals rfl

/-- The components among the fields of a parameter are read as the pruned ones. -/
theorem componentsOf?_pruneFields (owner : String) (fields : List (String × Json)) :
  componentsOf? owner (pruneFields fields) = componentsOf? owner fields
  := by
  obtain _ | ⟨⟨key, value⟩, rest⟩ := fields
  · rfl
  · rw [pruneFields, componentsOf?]
    split_ifs with components plain
    · rw [componentsOf?, if_pos components]
      apply components?_pruneItems
    · rw [componentsOf?, if_neg components]
      apply componentsOf?_pruneFields
    · apply componentsOf?_pruneFields

/-- Components are read as the pruned ones. -/
theorem components?_pruneItems (owner : String) (value : Json) :
  components? owner (pruneItems value) = components? owner value
  := by
  obtain _ | _ | _ | _ | items | _ := value
  case list => rw [pruneItems, components?, components?, ofList?_pruneAll]
  all_goals rfl

/-- Parameters in a list are read as the pruned ones. -/
theorem ofList?_pruneAll (owner : String) (items : List Json) :
  ofList? owner (pruneAll items) = ofList? owner items
  := by
  obtain _ | ⟨item, rest⟩ := items
  · rfl
  · rw [pruneAll, ofList?, ofList?, ofJson?_prune, ofList?_pruneAll]

end

theorem holds_pruneItems (value : Json) :
  (pruneItems value).holds = value.holds
  := by
  obtain _ | _ | _ | _ | (_ | ⟨item, rest⟩) | _ := value <;> rfl

end Parameter

/-! ## Entries -/

namespace Member

/-- The fields of an entry that are used as they stand, by its kind. -/
def plainFields : Json → List String
  | .text "function" => ["type", "name", "stateMutability", "payable", "constant"]
  | .text "constructor" => ["type", "name", "stateMutability", "payable", "constant"]
  | .text "event" => ["type", "name", "anonymous"]
  | .text "fallback" => ["type", "name", "stateMutability", "payable", "constant"]
  | .text "error" => ["type"]
  | .text "receive" => ["type"]
  | _ => ["type", "name"]

/-- The fields of an entry that hold parameters, by its kind. -/
def parameterFields : Json → List String
  | .text "function" => ["inputs", "outputs"]
  | .text "constructor" => ["inputs"]
  | .text "event" => ["inputs"]
  | _ => []

/-- The fields that are used of an entry of the given kind. -/
def pruneFields (kind : Json) : List (String × Json) → List (String × Json)
  | [] => []
  | (key, value) :: rest =>
    if key ∈ parameterFields kind then (key, Parameter.pruneItems value) :: pruneFields kind rest
    else if key ∈ plainFields kind then (key, value) :: pruneFields kind rest
    else pruneFields kind rest

/-- An entry with the fields that are used of its kind. -/
def prune : Json → Json
  | .object fields => .object (pruneFields (kindOf fields) fields)
  | value => value

/-- A field of a pruned entry, if it is one that is used. -/
theorem field?_pruneFields (kind : Json) (name : String) (fields : List (String × Json)) :
  Json.field? name (pruneFields kind fields)
    = if name ∈ parameterFields kind then (Json.field? name fields).map Parameter.pruneItems
      else if name ∈ plainFields kind then Json.field? name fields
      else none
  := by
  induction fields with
  | nil => split_ifs <;> rfl
  | cons field rest ih =>
      obtain ⟨key, value⟩ := field
      rw [pruneFields, Json.field?_cons]
      by_cases same : name = key
      · subst same
        rw [if_pos rfl]
        split_ifs with parameters plain
        · rw [Json.field?_cons, if_pos rfl, Option.map_some]
        · rw [Json.field?_cons, if_pos rfl]
        · rw [ih, if_neg parameters, if_neg plain]
      · rw [if_neg same, ← ih]
        split_ifs
        · rw [Json.field?_cons, if_neg same]
        · rw [Json.field?_cons, if_neg same]
        · rfl

theorem field?_pruneFields_of_plain {kind : Json} {name : String} (plain : name ∈ plainFields kind)
    (single : name ∉ parameterFields kind) (fields : List (String × Json)) :
  Json.field? name (pruneFields kind fields) = Json.field? name fields
  := by
  rw [field?_pruneFields, if_neg single, if_pos plain]

/-- Parameters under a field that is used are read as the pruned ones. -/
theorem underField?_pruneFields {kind : Json} {name : String} (used : name ∈ parameterFields kind)
    (owner : String) (fields : List (String × Json)) :
  Parameter.underField? owner name (pruneFields kind fields)
    = Parameter.underField? owner name fields
  := by
  rw [Parameter.underField?, Parameter.underField?, field?_pruneFields, if_pos used]
  cases Json.field? name fields with
  | none => rfl
  | some value =>
      simp only [Option.map_some, Parameter.holds_pruneItems, Parameter.components?_pruneItems]

/-- The mutability is read off four fields. -/
theorem ofFields?_eq_of_field?_eq {fields fields' : List (String × Json)}
    (same : ∀ name ∈ ["stateMutability", "name", "payable", "constant"],
      Json.field? name fields = Json.field? name fields') :
  Mutability.ofFields? fields = Mutability.ofFields? fields'
  := by
  simp only [List.forall_mem_cons, List.not_mem_nil, false_implies, implies_true, and_true] at same
  obtain ⟨stated, name, payable, constant⟩ := same
  simp only [Mutability.ofFields?, Mutability.ofFields?.ofFlags, Json.textOf, Json.flag, stated,
    name, payable, constant]
  rfl

theorem ofFields?_pruneFields {kind : Json}
    (used : ∀ name ∈ ["stateMutability", "name", "payable", "constant"],
      name ∈ plainFields kind ∧ name ∉ parameterFields kind) (fields : List (String × Json)) :
  Mutability.ofFields? (pruneFields kind fields) = Mutability.ofFields? fields
  := by
  apply ofFields?_eq_of_field?_eq
  intro name h
  apply field?_pruneFields_of_plain (used name h).1 (used name h).2

/-- The kind of an entry is kept. -/
theorem kindOf_pruneFields (kind : Json) (fields : List (String × Json)) :
  kindOf (pruneFields kind fields) = kindOf fields
  := by
  have plain : "type" ∈ plainFields kind := by
    unfold plainFields
    split <;> decide
  have single : "type" ∉ parameterFields kind := by
    unfold parameterFields
    split <;> decide
  rw [kindOf, kindOf, field?_pruneFields_of_plain plain single]

/-- The name of an entry is kept if its kind is not passed over. -/
theorem textOf_name_pruneFields {kind : Json} (h : ∀ word ∈ passedOver, kind ≠ .text word)
    (fields : List (String × Json)) :
  Json.textOf "name" (pruneFields kind fields) = Json.textOf "name" fields
  := by
  have plain : "name" ∈ plainFields kind := by
    unfold plainFields
    split
    case h_5 => exact absurd rfl (h "error" (by decide))
    case h_6 => exact absurd rfl (h "receive" (by decide))
    all_goals decide
  have single : "name" ∉ parameterFields kind := by
    unfold parameterFields
    split <;> decide
  rw [Json.textOf, Json.textOf, field?_pruneFields_of_plain plain single]

/-- An entry is read as the pruned one. -/
theorem ofJson?_prune (position : Nat) (entry : Json) :
  ofJson? position (prune entry) = ofJson? position entry
  := by
  obtain _ | _ | _ | _ | _ | fields := entry
  case object =>
    have kept := kindOf_pruneFields (kindOf fields) fields
    simp only [prune, ofJson?]
    rw [← kindOf, ← kindOf, ← ownerOf, ← ownerOf, kept]
    by_cases passed : ∃ word ∈ passedOver, kindOf fields = .text word
    · obtain ⟨word, passed, kind⟩ := passed
      simp only [kind, if_pos passed]
    have name := textOf_name_pruneFields
      (fun word passed' kind => passed ⟨word, passed', kind⟩) fields
    have owner : ownerOf position (pruneFields (kindOf fields) fields)
        = ownerOf position fields := by
      rw [ownerOf, ownerOf, name]
    rw [name, owner]
    split
    · next word kind =>
      rw [kind]
      split_ifs with passed function unnamed constructor event unnamed fallback
      · rfl
      · rfl
      · subst function
        rw [underField?_pruneFields (by decide), underField?_pruneFields (by decide),
          ofFields?_pruneFields (by decide)]
      · subst constructor
        rw [underField?_pruneFields (by decide), ofFields?_pruneFields (by decide)]
      · rfl
      · subst event
        rw [underField?_pruneFields (by decide), Json.flag, Json.flag,
          field?_pruneFields_of_plain (by decide) (by decide)]
      · subst fallback
        rw [ofFields?_pruneFields (by decide)]
      · rfl
    · rfl
  all_goals rfl

/-- Entries are read as the pruned ones. -/
theorem ofEntries?_prune (position : Nat) (entries : List Json) :
  ofEntries? position (entries.map prune) = ofEntries? position entries
  := by
  induction entries generalizing position with
  | nil => rfl
  | cons entry rest ih => rw [List.map_cons, ofEntries?, ofEntries?, ofJson?_prune, ih]

end Member

/-- An interface is read from pruned entries as from the whole ones. -/
theorem Interface.ofEntries?_prune (name : String) (entries : List Json) :
  ofEntries? name (entries.map Member.prune) = ofEntries? name entries
  := by
  rw [ofEntries?, ofEntries?, Member.ofEntries?_prune]

end ContractBindings
