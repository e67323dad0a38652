import ContractBindings.Proofs.Interface.Normalized

/-!
# Entries that spell out an interface

An entry spells out a member when its fields state every part of it.  There is some freedom in
this: the kind of a function may be left out, so may lists of parameters that are empty, and in
place of the mutability there may be the older flags.  Entries of the kinds that are passed over
may stand anywhere.

`Interface.ofEntries?_normalized` says that reading gives normalized interfaces only, and that
each of them is read from all the entries that spell it out, of which there always are some.
-/

namespace ContractBindings

/-- A field that is absent, null or empty. -/
def Json.Blank (value : Option Json) : Prop :=
  value = none ∨ value = some .null ∨ value = some (.text "")

theorem Json.textOf_of_field? {name text : String} {fields : List (String × Json)}
    (h : field? name fields = some (.text text)) :
  textOf name fields = text
  := by
  rw [textOf, h]

theorem Json.textOf_of_blank {name : String} {fields : List (String × Json)}
    (h : Blank (field? name fields)) :
  textOf name fields = ""
  := by
  rw [textOf]
  obtain h | h | h := h <;> rw [h]

/-! ## Parameters -/

namespace Parameter

/-- A field that spells out the name of a parameter. -/
def NameSpelledBy : Option String → Option Json → Prop
  | none, value => Json.Blank value
  | some name, value => value = some (.text name)

mutual

/-- An entry that spells out a parameter, at every depth. -/
def SpelledBy : Parameter → Json → Prop
  | ⟨type, name, indexed, components⟩, .object fields =>
    Json.field? "type" fields = some (.text type)
      ∧ NameSpelledBy name (Json.field? "name" fields)
      ∧ Json.flag "indexed" fields = indexed
      ∧ ComponentsSpelledBy components (Json.field? "components" fields)
  | _, _ => False

/-- A field that spells out the components of a parameter. -/
def ComponentsSpelledBy : Option (List Parameter) → Option Json → Prop
  | none, value => value = none ∨ value = some .null
  | some ps, some (.list items) => AllSpelledBy ps items
  | some _, _ => False

/-- Entries that spell out parameters, one by one. -/
def AllSpelledBy : List Parameter → List Json → Prop
  | [], [] => True
  | p :: ps, item :: items => p.SpelledBy item ∧ AllSpelledBy ps items
  | _, _ => False

end

/-- A field that spells out a list of parameters. -/
def FieldSpelledBy (ps : List Parameter) (value : Option Json) : Prop :=
  (ps = [] ∧ (value = none ∨ value = some .null))
    ∨ ∃ items, value = some (.list items) ∧ AllSpelledBy ps items

/-- The components among the fields of an entry are those under their field. -/
theorem componentsOf?_eq (owner : String) (fields : List (String × Json)) :
  componentsOf? owner fields = match Json.field? "components" fields with
    | none => .ok none
    | some value => components? owner value
  := by
  induction fields with
  | nil => rfl
  | cons field rest ih =>
      obtain ⟨key, value⟩ := field
      rw [componentsOf?, Json.field?, List.lookup_cons]
      by_cases same : key = "components"
      · subst same
        rfl
      · rw [if_neg same, ih, beq_false_of_ne (Ne.symm same)]
        rfl

/-- The name of a parameter is read from a field that spells it out. -/
theorem name_of_nameSpelledBy {name : Option String} {fields : List (String × Json)}
    (named : name ≠ some "") (h : NameSpelledBy name (Json.field? "name" fields)) :
  (if Json.textOf "name" fields = "" then none else some (Json.textOf "name" fields)) = name
  := by
  cases name with
  | none => rw [if_pos (Json.textOf_of_blank h)]
  | some name =>
      rw [Json.textOf_of_field? h, if_neg]
      rintro rfl
      apply named rfl

mutual

/-- A parameter is read from an entry that spells it out. -/
theorem ofJson?_of_spelledBy {owner : String} {p : Parameter} {entry : Json}
    (normalized : p.Normalized) (h : p.SpelledBy entry) :
  ofJson? owner entry = .ok p
  := by
  obtain ⟨type, name, indexed, components⟩ := p
  obtain ⟨typed, named, inner⟩ := normalized
  obtain _ | _ | _ | _ | _ | fields := entry
  case object =>
    obtain ⟨type', name', indexed', components'⟩ := h
    have given : (Json.text type).holds = true := decide_eq_true typed
    simp only [ofJson?, type', if_pos given, indexed', name_of_nameSpelledBy named name',
      componentsOf?_of_spelledBy inner components']
    rfl
  all_goals cases h

/-- Components are read from fields that spell them out. -/
theorem componentsOf?_of_spelledBy {owner : String} {components : Option (List Parameter)}
    {fields : List (String × Json)} (normalized : NormalizedComponents components)
    (h : ComponentsSpelledBy components (Json.field? "components" fields)) :
  componentsOf? owner fields = .ok components
  := by
  rw [componentsOf?_eq]
  obtain _ | ps := components
  · obtain h | h := h
    · rw [h]
    · rw [h]
      rfl
  · generalize Json.field? "components" fields = value at h
    obtain _ | _ | _ | _ | _ | items | _ := value
    case list =>
      show components? owner (.list items) = _
      rw [components?, ofList?_of_spelledBy normalized h]
      rfl
    all_goals cases h

/-- Parameters are read from entries that spell them out. -/
theorem ofList?_of_spelledBy {owner : String} {ps : List Parameter} {items : List Json}
    (normalized : NormalizedAll ps) (h : AllSpelledBy ps items) :
  ofList? owner items = .ok ps
  := by
  obtain _ | ⟨p, ps⟩ := ps
  · obtain _ | ⟨item, items⟩ := items
    · rfl
    · cases h
  · obtain _ | ⟨item, items⟩ := items
    · cases h
    · rw [ofList?, ofJson?_of_spelledBy normalized.1 h.1, ofList?_of_spelledBy normalized.2 h.2]
      rfl

end

/-- Parameters are read from a field that spells them out. -/
theorem underField?_of_spelledBy {owner name : String} {ps : List Parameter}
    {fields : List (String × Json)} (normalized : NormalizedAll ps)
    (h : FieldSpelledBy ps (Json.field? name fields)) :
  underField? owner name fields = .ok ps
  := by
  rw [underField?]
  obtain ⟨rfl, h | h⟩ | ⟨items, h, spelled⟩ := h
  · rw [h]
  · rw [h]
    rfl
  · rw [h]
    cases items with
    | nil =>
        obtain _ | ⟨p, ps⟩ := ps
        · rfl
        · cases spelled
    | cons item items =>
        simp only [components?, ofList?_of_spelledBy normalized spelled]
        rfl

mutual

/-- The entry that states every part of a parameter. -/
def toJson : Parameter → Json
  | ⟨type, name, indexed, components⟩ =>
    .object [("type", .text type), ("name", name.elim .null .text), ("indexed", .bool indexed),
      ("components", componentsToJson components)]

/-- The value that states components. -/
def componentsToJson : Option (List Parameter) → Json
  | none => .null
  | some ps => .list (listToJson ps)

/-- The entries that state parameters. -/
def listToJson : List Parameter → List Json
  | [] => []
  | p :: ps => p.toJson :: listToJson ps

end

mutual

theorem spelledBy_toJson (p : Parameter) :
  p.SpelledBy p.toJson
  := by
  obtain ⟨type, name, indexed, components⟩ := p
  refine ⟨rfl, ?_, rfl, componentsSpelledBy_componentsToJson components⟩
  cases name with
  | none => exact .inr (.inl rfl)
  | some name => rfl

theorem componentsSpelledBy_componentsToJson (components : Option (List Parameter)) :
  ComponentsSpelledBy components (some (componentsToJson components))
  := by
  obtain _ | ps := components
  · exact .inr rfl
  · apply allSpelledBy_listToJson ps

theorem allSpelledBy_listToJson (ps : List Parameter) :
  AllSpelledBy ps (listToJson ps)
  := by
  obtain _ | ⟨p, ps⟩ := ps
  · trivial
  · exact ⟨spelledBy_toJson p, allSpelledBy_listToJson ps⟩

end

theorem fieldSpelledBy_listToJson (ps : List Parameter) :
  FieldSpelledBy ps (some (.list (listToJson ps)))
  := .inr ⟨listToJson ps, rfl, allSpelledBy_listToJson ps⟩

end Parameter

/-! ## Members -/

namespace Mutability

/-- Older flags that spell out a mutability. -/
inductive FlaggedBy (fields : List (String × Json)) : String → Prop where
  | payable (flagged : Json.flag "payable" fields = true) : FlaggedBy fields "payable"
  | view (unflagged : Json.flag "payable" fields = false)
    (flagged : Json.flag "constant" fields = true) : FlaggedBy fields "view"
  | nonpayable (notPayable : Json.flag "payable" fields = false)
    (notConstant : Json.flag "constant" fields = false) : FlaggedBy fields "nonpayable"

/-- Fields that spell out a mutability, by its word or by flags. -/
def SpelledBy (mutability : String) (fields : List (String × Json)) : Prop :=
  Json.field? "stateMutability" fields = some (.text mutability)
    ∨ (Json.Blank (Json.field? "stateMutability" fields) ∧ FlaggedBy fields mutability)

/-- A mutability is read from fields that spell it out. -/
theorem ofFields?_of_spelledBy {mutability : String} {fields : List (String × Json)}
    (known : mutability ∈ words) (h : SpelledBy mutability fields) :
  ofFields? fields = .ok mutability
  := by
  rw [ofFields?]
  obtain h | ⟨blank, flagged⟩ := h
  · have given : (Json.text mutability).holds = true := by
      apply decide_eq_true
      rintro rfl
      revert known
      decide
    simp only [h, if_pos given]
    apply if_pos ⟨rfl, known⟩
  · have ofFlags : ofFields?.ofFlags fields = mutability := by
      cases flagged with
      | payable flagged => rw [ofFields?.ofFlags, if_pos flagged]
      | view unflagged flagged => simp [ofFields?.ofFlags, unflagged, flagged]
      | nonpayable notPayable notConstant => simp [ofFields?.ofFlags, notPayable, notConstant]
    obtain h | h | h := blank <;> simp [h, Json.holds, ofFlags]

end Mutability

namespace Member

/-- An entry that spells out a member.  The kind of a function may be left out. -/
def SpelledBy : Member Parameter → Json → Prop
  | function f, .object fields =>
    (Json.field? "type" fields = none ∨ Json.field? "type" fields = some (.text "function"))
      ∧ Json.field? "name" fields = some (.text f.name)
      ∧ Parameter.FieldSpelledBy f.inputs (Json.field? "inputs" fields)
      ∧ Parameter.FieldSpelledBy f.outputs (Json.field? "outputs" fields)
      ∧ Mutability.SpelledBy f.mutability fields
  | constructor inputs mutability, .object fields =>
    Json.field? "type" fields = some (.text "constructor")
      ∧ Parameter.FieldSpelledBy inputs (Json.field? "inputs" fields)
      ∧ Mutability.SpelledBy mutability fields
  | event e, .object fields =>
    Json.field? "type" fields = some (.text "event")
      ∧ Json.field? "name" fields = some (.text e.name)
      ∧ Parameter.FieldSpelledBy e.inputs (Json.field? "inputs" fields)
      ∧ Json.flag "anonymous" fields = e.anonymous
  | fallback mutability, .object fields =>
    Json.field? "type" fields = some (.text "fallback")
      ∧ Mutability.SpelledBy mutability fields
  | _, _ => False

/-- Entries that spell out members, one by one, with entries that are passed over among
them. -/
inductive AllSpelledBy : List (Member Parameter) → List Json → Prop where
  | nil : AllSpelledBy [] []
  | passedOver {ms : List (Member Parameter)} {word : String} {fields : List (String × Json)}
    {entries : List Json} (kind : Json.field? "type" fields = some (.text word))
    (known : word ∈ passedOver) (rest : AllSpelledBy ms entries) :
    AllSpelledBy ms (.object fields :: entries)
  | cons {m : Member Parameter} {ms : List (Member Parameter)} {entry : Json}
    {entries : List Json} (spelled : m.SpelledBy entry) (rest : AllSpelledBy ms entries) :
    AllSpelledBy (m :: ms) (entry :: entries)

theorem kindOf_eq {fields : List (String × Json)} {kind : Json}
    (h : Json.field? "type" fields = some kind) :
  kindOf fields = kind
  := by
  rw [kindOf, h]
  rfl

/-- A member is read from an entry that spells it out. -/
theorem ofJson?_of_spelledBy {position : Nat} {m : Member Parameter} {entry : Json}
    (normalized : m.Normalized) (h : m.SpelledBy entry) :
  ofJson? position entry = .ok (some m)
  := by
  obtain _ | _ | _ | _ | _ | fields := entry
  case object =>
    apply ReadAs.ofJson?_eq
    cases m with
    | function f =>
        obtain ⟨named, inputs, outputs, known⟩ := normalized
        obtain ⟨kind, name, taken, returned, stated⟩ := h
        have kind : kindOf fields = .text "function" := by
          rw [kindOf]
          obtain kind | kind := kind <;> rw [kind] <;> rfl
        have name := Json.textOf_of_field? name
        rw [← name] at named
        have read : ReadAs position fields _ := .function kind named
          (Parameter.underField?_of_spelledBy inputs taken)
          (Parameter.underField?_of_spelledBy outputs returned)
          (Mutability.ofFields?_of_spelledBy known stated)
        rw [name] at read
        exact read
    | constructor inputs mutability =>
        obtain ⟨normalized, known⟩ := normalized
        obtain ⟨kind, taken, stated⟩ := h
        apply ReadAs.constructor (kindOf_eq kind)
          (Parameter.underField?_of_spelledBy normalized taken)
          (Mutability.ofFields?_of_spelledBy known stated)
    | event e =>
        obtain ⟨named, inputs⟩ := normalized
        obtain ⟨kind, name, taken, anonymous⟩ := h
        have name := Json.textOf_of_field? name
        rw [← name] at named
        have read : ReadAs position fields _ := .event (kindOf_eq kind) named
          (Parameter.underField?_of_spelledBy inputs taken)
        rw [name, anonymous] at read
        exact read
    | fallback mutability =>
        obtain ⟨kind, stated⟩ := h
        apply ReadAs.fallback (kindOf_eq kind) (Mutability.ofFields?_of_spelledBy normalized stated)
  all_goals cases m <;> cases h

/-- Members are read from entries that spell them out. -/
theorem ofEntries?_of_spelledBy {position : Nat} {ms : List (Member Parameter)}
    {entries : List Json} (normalized : ∀ m ∈ ms, m.Normalized) (h : AllSpelledBy ms entries) :
  ofEntries? position entries = .ok ms
  := by
  induction h generalizing position with
  | nil => rfl
  | passedOver kind known _ ih =>
      rw [ofEntries?, (ReadAs.passedOver (kindOf_eq kind) known).ofJson?_eq, ih normalized]
      rfl
  | cons spelled _ ih =>
      obtain ⟨first, later⟩ := List.forall_mem_cons.mp normalized
      rw [ofEntries?, ofJson?_of_spelledBy first spelled, ih later]
      rfl

/-- The entry that states every part of a member. -/
def toJson : Member Parameter → Json
  | function f => .object [("type", .text "function"), ("name", .text f.name),
      ("inputs", .list (Parameter.listToJson f.inputs)),
      ("outputs", .list (Parameter.listToJson f.outputs)),
      ("stateMutability", .text f.mutability)]
  | constructor inputs mutability => .object [("type", .text "constructor"),
      ("inputs", .list (Parameter.listToJson inputs)), ("stateMutability", .text mutability)]
  | event e => .object [("type", .text "event"), ("name", .text e.name),
      ("inputs", .list (Parameter.listToJson e.inputs)), ("anonymous", .bool e.anonymous)]
  | fallback mutability =>
    .object [("type", .text "fallback"), ("stateMutability", .text mutability)]

theorem spelledBy_toJson (m : Member Parameter) :
  m.SpelledBy m.toJson
  := by
  cases m with
  | function f =>
      exact ⟨.inr rfl, rfl, Parameter.fieldSpelledBy_listToJson f.inputs,
        Parameter.fieldSpelledBy_listToJson f.outputs, .inl rfl⟩
  | constructor inputs mutability =>
      exact ⟨rfl, Parameter.fieldSpelledBy_listToJson inputs, .inl rfl⟩
  | event e => exact ⟨rfl, rfl, Parameter.fieldSpelledBy_listToJson e.inputs, rfl⟩
  | fallback mutability => exact ⟨rfl, .inl rfl⟩

theorem allSpelledBy_toJson (ms : List (Member Parameter)) :
  AllSpelledBy ms (ms.map toJson)
  := by
  induction ms with
  | nil => apply AllSpelledBy.nil
  | cons m ms ih => apply AllSpelledBy.cons (spelledBy_toJson m) ih

end Member

/-! ## Interfaces -/

namespace Interface

/-- What is read from entries is normalized and has the name that was given.  Conversely every
normalized interface is spelled out by entries, by those that state every part of a member among
others, and is read from any entries that spell it out. -/
theorem ofEntries?_normalized :
  (∀ {name : String} {entries : List Json} {i : Interface Parameter},
      ofEntries? name entries = .ok i → i.name = name ∧ i.Normalized)
    ∧ ∀ i : Interface Parameter, i.Normalized →
      Member.AllSpelledBy i.members (i.members.map Member.toJson)
        ∧ ∀ entries, Member.AllSpelledBy i.members entries → ofEntries? i.name entries = .ok i
  := by
  constructor
  · intro name entries i h
    obtain ⟨ms, read, h⟩ := Fault.bind_eq_ok_iff.mp h
    obtain rfl := Except.ok.inj h
    use rfl
    apply Member.normalized_of_ofEntries? read
  · intro i normalized
    use Member.allSpelledBy_toJson i.members
    intro entries spelled
    rw [ofEntries?, Member.ofEntries?_of_spelledBy normalized spelled]
    rfl

/-- A pool with nested components, none of whose entries states every part. -/
def pool : Interface Parameter := ⟨"Pool", [
  .constructor [] "payable",
  .function ⟨"join", [⟨"tuple[]", some "legs", false, some [
    ⟨"tuple", none, false, some [⟨"bool", some "open", false, none⟩]⟩]⟩], [], "view"⟩,
  .event ⟨"Joined", [⟨"address", none, true, none⟩], false⟩,
  .fallback "pure"]⟩

/-- Entries that spell out the pool, with others among them that are passed over. -/
def poolEntries : List Json := [
  .object [("type", .text "error"), ("name", .text "Closed")],
  .object [("type", .text "constructor"), ("payable", .bool true), ("inputs", .null)],
  .object [("name", .text "join"), ("constant", .bool true), ("inputs", .list [
    .object [("type", .text "tuple[]"), ("name", .text "legs"), ("components", .list [
      .object [("name", .text ""), ("type", .text "tuple"), ("components", .list [
        .object [("type", .text "bool"), ("name", .text "open")]])]])]])],
  .object [("type", .text "receive")],
  .object [("type", .text "event"), ("name", .text "Joined"), ("inputs", .list [
    .object [("type", .text "address"), ("indexed", .bool true), ("components", .null)]])],
  .object [("type", .text "fallback"), ("stateMutability", .text "pure")],
  .object [("type", .text "error")]]

theorem ofEntries?_normalized_pool :
  Member.AllSpelledBy pool.members poolEntries
    ∧ ofEntries? "Pool" poolEntries = .ok pool ∧ pool.name = "Pool" ∧ pool.Normalized
  := by
  have normalized : pool.Normalized := by
    simp [pool, Normalized, Member.Normalized, Parameter.NormalizedAll, Parameter.Normalized,
      Parameter.NormalizedComponents, Mutability.words]
  have spelled : Member.AllSpelledBy pool.members poolEntries := by
    apply Member.AllSpelledBy.passedOver rfl (by decide)
    apply Member.AllSpelledBy.cons
    · exact ⟨rfl, .inl ⟨rfl, .inr rfl⟩, .inr ⟨.inl rfl, .payable rfl⟩⟩
    apply Member.AllSpelledBy.cons
    · refine ⟨.inl rfl, rfl, .inr ⟨_, rfl, ?_⟩, .inl ⟨rfl, .inl rfl⟩,
        .inr ⟨.inl rfl, .view rfl rfl⟩⟩
      exact ⟨⟨rfl, rfl, rfl, ⟨rfl, .inr (.inr rfl), rfl, ⟨rfl, rfl, rfl, .inl rfl⟩, trivial⟩,
        trivial⟩, trivial⟩
    apply Member.AllSpelledBy.passedOver rfl (by decide)
    apply Member.AllSpelledBy.cons
    · exact ⟨rfl, rfl, .inr ⟨_, rfl, ⟨rfl, .inl rfl, rfl, .inr rfl⟩, trivial⟩, rfl⟩
    apply Member.AllSpelledBy.cons
    · exact ⟨rfl, .inl rfl⟩
    apply Member.AllSpelledBy.passedOver rfl (by decide)
    apply Member.AllSpelledBy.nil
  have read := (ofEntries?_normalized.2 pool normalized).2 poolEntries spelled
  exact ⟨spelled, read, ofEntries?_normalized.1 read⟩

end Interface

end ContractBindings
