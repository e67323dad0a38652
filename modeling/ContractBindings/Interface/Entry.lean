import ContractBindings.Fault
import ContractBindings.Interface.Member

/-!
# Entries

An interface is read from a list of decoded entries, one for a member.  `Interface.ofEntries?`
gives the members in order, or the fault of the first entry that is malformed.  Within an
entry the checks come in the order name, inputs, outputs, mutability, and among parameters
each comes before its components.

An entry without a kind is a function.  The kinds `error` and `receive` stand for nothing in
the bindings, and an entry of such a kind is passed over.  A list or an object cannot even be
looked up among these kinds.  A member without a name is called
by the position of its entry in messages.
-/

namespace ContractBindings

namespace Parameter

mutual

/-- The parameter that an entry declares. -/
def ofJson? (owner : String) : Json → Except Fault Parameter
  | .object fields =>
    match Json.field? "type" fields with
    | some type =>
      if type.holds then do
        let components ← componentsOf? owner fields
        return {
          type := type.word
          name := if Json.textOf "name" fields = "" then none else some (Json.textOf "name" fields)
          indexed := Json.flag "indexed" fields
          components := components }
      else
        .error (.malformedMember .parameterWithoutType owner)
    | none => .error (.malformedMember .parameterWithoutType owner)
  | value => .error (.notAnObject value.kind)

/-- The components among the fields of an entry, if it has any. -/
def componentsOf? (owner : String) : List (String × Json) → Except Fault (Option (List Parameter))
  | [] => .ok none
  | (key, value) :: rest =>
    if key = "components" then components? owner value else componentsOf? owner rest

/-- The components that a value declares. -/
def components? (owner : String) : Json → Except Fault (Option (List Parameter))
  | .null => .ok none
  | .list items => return some (← ofList? owner items)
  | .text value => if value = "" then .ok (some []) else .error (.notAnObject .text)
  | .object fields => if fields.isEmpty then .ok (some []) else .error (.notAnObject .text)
  | value => .error (.notAList value.kind)

/-- The parameters that a list of entries declares. -/
def ofList? (owner : String) : List Json → Except Fault (List Parameter)
  | [] => .ok []
  | item :: rest => return (← ofJson? owner item) :: (← ofList? owner rest)

end

/-- The parameters under a field of an entry.  A field that is absent, null, false, zero or
empty holds none. -/
def underField? (owner name : String) (fields : List (String × Json)) :
    Except Fault (List Parameter) :=
  match Json.field? name fields with
  | none => .ok []
  | some value =>
    if value.holds then do
      return (← components? owner value).getD []
    else
      .ok []

end Parameter

namespace Mutability

/-- The mutability that an entry declares: the word it states, or else what the older flags
for payable and for constant members say. -/
def ofFields? (fields : List (String × Json)) : Except Fault String :=
  match Json.field? "stateMutability" fields with
  | some value =>
    if value.holds then
      if value.kind = .text ∧ value.word ∈ words then
        .ok value.word
      else
        .error (.malformedMember (.unknownMutability value.word) (Json.textOf "name" fields))
    else
      .ok (ofFlags fields)
  | none => .ok (ofFlags fields)
where
  /-- The mutability that the older flags declare. -/
  ofFlags (fields : List (String × Json)) : String :=
    if Json.flag "payable" fields then "payable"
    else if Json.flag "constant" fields then "view"
    else "nonpayable"

end Mutability

namespace Member

/-- The kinds of entries that are passed over. -/
def passedOver : List String :=
  ["error", "receive"]

/-- The member that the entry at a position declares, none when its kind is passed over. -/
def ofJson? (position : Nat) : Json → Except Fault (Option (Member Parameter))
  | .object fields =>
    let name := Json.textOf "name" fields
    let owner := if name = "" then "member #" ++ toString position else name
    let kind := (Json.field? "type" fields).getD (.text "function")
    match kind with
    | .text word =>
      if word ∈ passedOver then
        .ok none
      else if word = "function" then
        if name = "" then
          .error (.malformedMember .functionWithoutName owner)
        else do
          let inputs ← Parameter.underField? owner "inputs" fields
          let outputs ← Parameter.underField? owner "outputs" fields
          let mutability ← Mutability.ofFields? fields
          return some (.function ⟨name, inputs, outputs, mutability⟩)
      else if word = "constructor" then do
        let inputs ← Parameter.underField? owner "inputs" fields
        let mutability ← Mutability.ofFields? fields
        return some (.constructor inputs mutability)
      else if word = "event" then
        if name = "" then
          .error (.malformedMember .eventWithoutName owner)
        else do
          let inputs ← Parameter.underField? owner "inputs" fields
          return some (.event ⟨name, inputs, Json.flag "anonymous" fields⟩)
      else if word = "fallback" then do
        let mutability ← Mutability.ofFields? fields
        return some (.fallback mutability)
      else
        .error (.malformedMember (.unknownKind word) owner)
    | value =>
      if value.kind.isPlain then
        .error (.malformedMember (.unknownKind value.word) owner)
      else
        .error (.notPlain value.kind)
  | value => .error (.notAnObject value.kind)

/-- The members that a list of entries declares, the first of them at a position. -/
def ofEntries? (position : Nat) : List Json → Except Fault (List (Member Parameter))
  | [] => .ok []
  | entry :: rest => do
    let member ← ofJson? position entry
    return member.toList ++ (← ofEntries? (position + 1) rest)

end Member

/-- The interface of that name whose members a list of entries declares. -/
def Interface.ofEntries? (name : String) (entries : List Json) :
    Except Fault (Interface Parameter) := do
  return ⟨name, ← Member.ofEntries? 0 entries⟩

end ContractBindings
