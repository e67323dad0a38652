import ContractBindings.Code.Declaration
import ContractBindings.Proofs.Code.Typing
import Mathlib.Data.List.Nodup

/-!
# Evaluation

What the code in generated classes does when it runs.  `Runtime` is the library that a module
runs with: the methods of its values, their static methods, what a contract answers, and what the
names of classes stand for.  Objects are kept in a `Memory`, with a record of the requests that
were sent to the contract.

`Expr.eval` evaluates an expression in a `Frame`, which binds the locals of a method and the
object that the method belongs to.  It is told how to make an object.  `Stmt.runAll` runs the body
of a method, and `Runtime.make` makes an object of a generated class by running its constructor.
A run that cannot go on has no result: when a name is not bound, or bound twice in one method, when
a method is called with too many arguments or too few, when a field is assigned that the class does
not have, or when the library refuses.
-/

namespace ContractBindings

/-- The values that code computes with.  Those of the library are of any type `α`. -/
inductive Value (α : Type) where
  | given (value : α)
  | text (value : String)
  | number (value : Int)
  | truth (value : Bool)
  | list (items : List (Value α))
  | object (place : Nat)
  | nothing

/-- What is kept of an object: the fields of one of a generated class, or the entries of a map. -/
inductive Cell (α : Type) where
  | record (type : String) (fields : List (String × Value α))
  | map (entries : List (String × Value α))

/-- A request to the contract: a method of the base class of contracts, with its arguments. -/
structure Request (α : Type) where
  method : String
  arguments : List (Value α)

/-- The objects that were made and the requests that were sent, in order. -/
structure Memory (α : Type) where
  cells : List (Cell α) := []
  requests : List (Request α) := []

/-- A computation on a memory, which may fail. -/
abbrev Run (α : Type) := StateT (Memory α) Option

/-- How an object of a class is made from arguments. -/
abbrev Maker (α : Type) := String → List (Value α) → Run α (Value α)

/-- What the name of a class stands for. -/
inductive ClassKind where
  | generated (c : ClassDef)
  | map

/-- The library that a module runs with. -/
structure Runtime (α : Type) where
  class? (name : String) : Option ClassKind
  method? (receiver : Value α) (method : String) (arguments : List (Value α))
    (types : List String) : Option (Value α)
  static? (owner method : String) (arguments : List (Value α)) (types : List String) :
    Option (Value α)
  answer? (requests : List (Request α)) : Option (Value α)

/-- The object that a method belongs to, and the locals, the innermost first. -/
structure Frame (α : Type) where
  self : Value α
  locals : List (String × Value α)

variable {α β γ : Type}

/-! ## Objects -/

/-- Values under names, one of them replaced or added. -/
def stored (name : String) (value : Value α) (values : List (String × Value α)) :
    List (String × Value α) :=
  if name ∈ values.map (·.1) then
    values.map fun entry => if entry.1 = name then (name, value) else entry
  else
    values ++ [(name, value)]

/-- A value under a new name is added at the end. -/
theorem stored_of_notMem {name : String} {values : List (String × Value α)}
    (h : name ∉ values.map (·.1)) (value : Value α) :
  stored name value values = values ++ [(name, value)]
  := if_neg h

namespace Value

/-- The items of a list. -/
def items? : Value α → Option (List (Value α))
  | list items => some items
  | _ => none

/-- The item at a position of a list. -/
def item? : Value α → Value α → Option (Value α)
  | list items, number (.ofNat n) => items[n]?
  | _, _ => none

/-- The value of a literal. -/
def ofLiteral : Literal → Value α
  | .text value => text value
  | .number value => number value
  | .truth value => truth value

end Value

/-- Whether objects of a class have a field. -/
def Runtime.declares (R : Runtime α) (type field : String) : Bool :=
  match R.class? type with
  | some (.generated c) => c.fields.any (·.name == field)
  | _ => false

namespace Cell

/-- The object with a field assigned. -/
def assign? (R : Runtime α) (field : String) (value : Value α) : Cell α → Option (Cell α)
  | record type fields =>
    if R.declares type field then some (record type (stored field value fields)) else none
  | map _ => none

/-- The map with an entry set. -/
def insert? (key : String) (value : Value α) : Cell α → Option (Cell α)
  | map entries => some (map (stored key value entries))
  | record _ _ => none

end Cell

namespace Memory

/-- What is kept of an object. -/
def cell? (m : Memory α) : Value α → Option (Cell α)
  | .object place => m.cells[place]?
  | _ => none

/-- The value of a field of an object. -/
def field? (m : Memory α) (object : Value α) (field : String) : Option (Value α) :=
  match m.cell? object with
  | some (.record _ fields) => fields.lookup field
  | _ => none

/-- The memory with one object changed. -/
def change? (m : Memory α) (object : Value α) (change : Cell α → Option (Cell α)) :
    Option (Memory α) :=
  match object with
  | .object place =>
    (m.cells[place]?.bind change).map fun cell => { m with cells := m.cells.set place cell }
  | _ => none

/-- The memory with one more object. -/
def withCell (cell : Cell α) (m : Memory α) : Memory α :=
  { m with cells := m.cells ++ [cell] }

/-- The memory with one more request. -/
def withRequest (request : Request α) (m : Memory α) : Memory α :=
  { m with requests := m.requests ++ [request] }

/-- The fields of an object are kept when another is made. -/
theorem field?_withCell {m : Memory α} {object value : Value α} {field : String}
    (h : m.field? object field = some value) (cell : Cell α) :
  (m.withCell cell).field? object field = some value
  := by
  cases object with
  | object place =>
      by_cases within : place < m.cells.length
      · simpa [field?, cell?, withCell, List.getElem?_append_left within] using h
      · simp [field?, cell?, List.getElem?_eq_none (Nat.le_of_not_lt within)] at h
  | _ => cases h

/-- A change of the object that was made last. -/
theorem change?_withCell {cell cell' : Cell α} {change : Cell α → Option (Cell α)}
    (h : change cell = some cell') (m : Memory α) :
  (m.withCell cell).change? (.object m.cells.length) change = some (m.withCell cell')
  := by
  simp [change?, withCell, h]

end Memory

namespace Run

/-- A value that is there or not, without effect on the memory. -/
def ofOption (value : Option β) : Run α β :=
  fun m => value.map (·, m)

/-- A new object. -/
def allocate (cell : Cell α) : Run α (Value α) :=
  fun m => some (.object m.cells.length, m.withCell cell)

/-- A change of an object. -/
def change (object : Value α) (change : Cell α → Option (Cell α)) : Run α Unit :=
  fun m => (m.change? object change).map ((), ·)

/-- A request, with what the contract answers. -/
def send (R : Runtime α) (request : Request α) : Run α (Value α) :=
  fun m => (R.answer? (m.requests ++ [request])).map (·, m.withRequest request)

theorem allocate_eq (cell : Cell α) (m : Memory α) :
  allocate cell m = some (.object m.cells.length, m.withCell cell)
  := by
  rfl

theorem send_of_answer? {R : Runtime α} {request : Request α} {m : Memory α} {answer : Value α}
    (h : R.answer? (m.requests ++ [request]) = some answer) :
  send R request m = some (answer, m.withRequest request)
  := by
  simp only [send, h, Option.map_some]

/-- A run goes on with the result of its first part. -/
theorem bind_of_eq_some {x : Run α β} {m m' : Memory α} {b : β} (h : x m = some (b, m'))
    (f : β → Run α γ) :
  (x >>= f) m = f b m'
  := by
  change (x m).bind (fun result => f result.1 result.2) = f b m'
  rw [h]
  rfl

theorem map_of_eq_some {x : Run α β} {m m' : Memory α} {b : β} (h : x m = some (b, m'))
    (f : β → γ) :
  (f <$> x) m = some (f b, m')
  := by
  rw [map_eq_pure_bind, bind_of_eq_some h]
  rfl

theorem ofOption_some (b : β) :
  (ofOption (some b) : Run α β) = pure b
  := by
  rfl

theorem ofOption_bind (x : Option β) (f : β → Option γ) :
  (ofOption (x >>= f) : Run α γ) = ofOption x >>= fun b => ofOption (f b)
  := by
  cases x <;> rfl

/-- Values that are found one by one without effect are found all at once. -/
theorem mapM_ofOption (f : β → Option γ) (bs : List β) :
  (bs.mapM (fun b => ofOption (f b)) : Run α (List γ)) = ofOption (bs.mapM f)
  := by
  induction bs with
  | nil => rfl
  | cons b bs ih =>
      rw [List.mapM_cons, List.mapM_cons, ih, ofOption_bind]
      apply congrArg
      funext c
      rw [ofOption_bind]
      rfl

end Run

/-! ## Expressions -/

/-- The method that sets an entry of a map. -/
def setMethod : String := "set"

/-- A call of a method of a value, which sets an entry if the value is a map. -/
def Runtime.invoke (R : Runtime α) (receiver : Value α) (method : String)
    (arguments : List (Value α)) (types : List String) : Run α (Value α) :=
  match arguments with
  | [.text key, value] => fun m =>
    match if method = setMethod then m.change? receiver (Cell.insert? key value) else none with
    | some m' => some (.nothing, m')
    | none => (R.method? receiver method arguments types).map (·, m)
  | arguments => Run.ofOption (R.method? receiver method arguments types)

/-- A map with an entry set. -/
theorem Runtime.invoke_set {R : Runtime α} {map value : Value α} {key : String} {m m' : Memory α}
    (h : m.change? map (Cell.insert? key value) = some m') (types : List String) :
  R.invoke map setMethod [.text key, value] types m = some (.nothing, m')
  := by
  simp only [invoke, if_true, h]

/-- The frame with one more local. -/
def Frame.bind (frame : Frame α) (name : String) (value : Value α) : Frame α :=
  { frame with locals := (name, value) :: frame.locals }

namespace Expr

variable (R : Runtime α) (make : Maker α)

mutual

/-- The value of an expression.  A function has a value only where it is passed to `map`. -/
def eval (frame : Frame α) : Expr → Run α (Value α)
  | .name id => Run.ofOption (frame.locals.lookup id)
  | .self => pure frame.self
  | .literal value => pure (Value.ofLiteral value)
  | .member object field => do
    let object ← object.eval frame
    fun m => (m.field? object field).map (·, m)
  | .index values position => do
    let values ← values.eval frame
    let position ← position.eval frame
    Run.ofOption (values.item? position)
  | .call receiver method [.lambda parameter _ body] _ => do
    let receiver ← receiver.eval frame
    let items ← Run.ofOption (if method = mapMethod then receiver.items? else none)
    return .list (← items.mapM fun item => body.eval (frame.bind parameter.name item))
  | .call receiver method arguments types => do
    let receiver ← receiver.eval frame
    let arguments ← evalAll frame arguments
    R.invoke receiver method arguments types
  | .staticCall owner method arguments types => do
    let arguments ← evalAll frame arguments
    Run.ofOption (R.static? owner method arguments types)
  | .superCall method arguments => do
    let arguments ← evalAll frame arguments
    Run.send R ⟨method, arguments⟩
  | .new type arguments => do
    let arguments ← evalAll frame arguments
    make type arguments
  | .cast value _ => value.eval frame
  | .list elements => do return .list (← evalAll frame elements)
  | .lambda _ _ _ => failure

/-- The values of expressions, in order. -/
def evalAll (frame : Frame α) : List Expr → Run α (List (Value α))
  | [] => pure []
  | e :: es => do return (← e.eval frame) :: (← evalAll frame es)

end

variable (frame : Frame α)

/-- A function is applied to each item of a list, in order. -/
theorem eval_map (receiver : Expr) (parameter : Variable) (type : String) (body : Expr)
    (types : List String) :
  (call receiver mapMethod [lambda parameter type body] types).eval R make frame = (do
    let receiver ← receiver.eval R make frame
    let items ← Run.ofOption receiver.items?
    return .list (← items.mapM fun item => body.eval R make (frame.bind parameter.name item)))
  := by
  simp only [eval, if_true]

/-- A call without arguments is left to the library. -/
theorem eval_call_nil (receiver : Expr) (method : String) (types : List String) :
  (call receiver method [] types).eval R make frame
    = receiver.eval R make frame >>= fun receiver =>
        Run.ofOption (R.method? receiver method [] types)
  := by
  simp only [eval, evalAll, pure_bind, Runtime.invoke]

/-- A call with two arguments. -/
theorem eval_call_pair (receiver : Expr) (method : String) (first second : Expr)
    (types : List String) :
  (call receiver method [first, second] types).eval R make frame = (do
    let receiver ← receiver.eval R make frame
    let first ← first.eval R make frame
    let second ← second.eval R make frame
    R.invoke receiver method [first, second] types)
  := by
  simp only [eval, evalAll, pure_bind, bind_assoc]

theorem eval_staticCall_singleton (owner method : String) (argument : Expr)
    (types : List String) :
  (staticCall owner method [argument] types).eval R make frame
    = argument.eval R make frame >>= fun argument =>
        Run.ofOption (R.static? owner method [argument] types)
  := by
  simp only [eval, evalAll, pure_bind, bind_assoc]

end Expr

/-! ## Statements, methods and objects -/

/-- What a list of statements returns, nothing if it comes to its end. -/
def Stmt.runAll (R : Runtime α) (make : Maker α) : Frame α → List Stmt → Run α (Option (Value α))
  | _, [] => pure none
  | frame, .declare name value :: rest => do
    let value ← value.eval R make frame
    if (frame.locals.lookup name).isSome then failure
    runAll R make (frame.bind name value) rest
  | frame, .assign (.member object field) value :: rest => do
    let object ← object.eval R make frame
    let value ← value.eval R make frame
    Run.change object (Cell.assign? R field value)
    runAll R make frame rest
  | _, .assign _ _ :: _ => failure
  | frame, .give value :: _ => some <$> value.eval R make frame
  | frame, .effect value :: rest => do
    let _ ← value.eval R make frame
    runAll R make frame rest

/-- A new local is bound to its value in the statements that follow. -/
theorem Stmt.runAll_declare {R : Runtime α} {make : Maker α} {frame : Frame α} {name : String}
    {value : Expr} {x : Value α} {m m' : Memory α}
    (made : value.eval R make frame m = some (x, m')) (new : frame.locals.lookup name = none)
    (rest : List Stmt) :
  runAll R make frame (.declare name value :: rest) m
    = runAll R make (frame.bind name x) rest m'
  := by
  rw [runAll, Run.bind_of_eq_some made, new]
  rfl

namespace Method

/-- The frame in which the body of a method runs: the parameters, which are to have different
names, are bound to the arguments. -/
def frame? (m : Method) (self : Value α) (arguments : List (Value α)) : Option (Frame α) :=
  let names := m.parameters.map (·.name)
  if names.Nodup ∧ names.length = arguments.length then
    some ⟨self, names.zip arguments⟩
  else
    none

/-- A run of the body of a method. -/
def run (R : Runtime α) (make : Maker α) (m : Method) (self : Value α)
    (arguments : List (Value α)) : Run α (Option (Value α)) := do
  let frame ← Run.ofOption (m.frame? self arguments)
  Stmt.runAll R make frame m.body

/-- A method runs with its parameters bound to the arguments, if their names differ and there are
as many of both. -/
theorem run_eq_runAll (R : Runtime α) (make : Maker α) {m : Method} {names : List String}
    (named : m.parameters.map (·.name) = names) (nodup : names.Nodup)
    {arguments : List (Value α)} (length : names.length = arguments.length) (self : Value α) :
  m.run R make self arguments = Stmt.runAll R make ⟨self, names.zip arguments⟩ m.body
  := by
  rw [run, frame?, named, if_pos ⟨nodup, length⟩, Run.ofOption_some, pure_bind]

end Method

namespace Runtime

/-- No objects are made, as in constructors. -/
def makeNothing : Maker α :=
  fun _ _ => failure

/-- An object of a class: an empty map, or one of a generated class whose constructor has been
run. -/
def make (R : Runtime α) : Maker α := fun type arguments =>
  match R.class? type, arguments with
  | some .map, [] => Run.allocate (.map [])
  | some (.generated c), arguments => do
    let object ← Run.allocate (.record type [])
    let constructor ← Run.ofOption (c.methods.find? (·.kind == .constructor))
    let _ ← constructor.run R makeNothing object arguments
    return object
  | _, _ => failure

/-- What a method of an object returns. -/
def call (R : Runtime α) (m : Method) (self : Value α) (arguments : List (Value α)) :
    Run α (Value α) := do
  let some value ← m.run R R.make self arguments | failure
  return value

/-- A method returns what a run of its body returns. -/
theorem call_of_run {R : Runtime α} {w : Method} {self value : Value α}
    {arguments : List (Value α)} {m m' : Memory α}
    (h : w.run R R.make self arguments m = some (some value, m')) :
  R.call w self arguments m = some (value, m')
  := by
  rw [call, Run.bind_of_eq_some h]
  rfl

end Runtime

end ContractBindings
