import ContractBindings.Proofs.Code.Tokenized

/-!
# Reading expressions

A reader goes through tokens from the left, once.  It keeps a stack of what is open, the
innermost first, and never looks ahead.

What it reads from the tokens of an expression is `Expr.asRead`: calls on a name are calls on an
expression, and a cast that is written after a function belongs to the body of the function.
-/

namespace ContractBindings

/-! ## What is read -/

namespace Expr

/-- The cast of an expression, within its body if it is a function. -/
def castWithin : Expr → String → Expr
  | .lambda parameter result body, type => .lambda parameter result (castWithin body type)
  | e, type => .cast e type

mutual

/-- The expression that the text of an expression stands for: calls on a name are calls on an
expression, and each cast of a function is one of its body. -/
def asRead : Expr → Expr
  | .name id => .name id
  | .self => .self
  | .literal value => .literal value
  | .member object field => .member object.asRead field
  | .index values position => .index values.asRead position.asRead
  | .call receiver method arguments types =>
    .call receiver.asRead method (asReadAll arguments) types
  | .staticCall owner method arguments types =>
    .call (.name owner) method (asReadAll arguments) types
  | .superCall method arguments => .superCall method (asReadAll arguments)
  | .new type arguments => .new type (asReadAll arguments)
  | .cast value type => castWithin value.asRead type
  | .list elements => .list (asReadAll elements)
  | .lambda parameter type body => .lambda parameter type body.asRead

/-- The expressions that the texts of expressions stand for. -/
def asReadAll : List Expr → List Expr
  | [] => []
  | e :: es => e.asRead :: asReadAll es

end

theorem isLoose_castWithin (e : Expr) (type : String) :
  (e.castWithin type).isLoose
  := by
  cases e <;> rfl

theorem isLoose_asRead (e : Expr) :
  e.asRead.isLoose = e.isLoose
  := by
  cases e with
  | cast value type => apply isLoose_castWithin
  | _ => rfl

end Expr

/-! ## The reader -/

namespace Reader

/-- What expressions between commas are listed for. -/
inductive Listing where
  | list
  | call (receiver : Expr) (method : String) (types : List String)
  | superCall (method : String)
  | new (type : String)

/-- The expression made of what is listed. -/
def Listing.make : Listing → List Expr → Expr
  | list, es => .list es
  | call receiver method types, es => .call receiver method es types
  | superCall method, es => .superCall method es
  | new type, es => .new type es

/-- The mark that a listing ends with. -/
def Listing.ending : Listing → Mark
  | list => .closeBracket
  | _ => .closing

/-- What is open, with an expression to be read within it. -/
inductive Frame where
  | group
  | index (values : Expr)
  | items (listing : Listing) (done : List Expr)
  | body (parameter : Variable) (type : String)

/-- What has been read last, or what is to come next. -/
inductive Mode where
  /-- An expression is to come. -/
  | expression
  /-- An expression has been read, which may go on. -/
  | after (e : Expr)
  /-- A dot has been read. -/
  | field (object : Expr)
  /-- A type argument is to come. -/
  | type (receiver : Expr) (method : String) (types : List String)
  /-- A type argument has been read. -/
  | afterType (receiver : Expr) (method : String) (types : List String)
  /-- What a call is made on has been read. -/
  | arguments (listing : Listing)
  /-- The word for the base class has been read. -/
  | afterSuper
  | superMethod
  /-- The word for a new object has been read. -/
  | afterNew
  | newType
  /-- The blank before the word of a cast has been read. -/
  | castWord (value : Expr)
  | castBlank (value : Expr)
  | castType (value : Expr)
  /-- The name of the parameter of a function has been read, with the colon after it. -/
  | parameterType (name : String)
  | parameterEnd (parameter : Variable)
  | resultColon (parameter : Variable)
  | resultType (parameter : Variable)
  | resultEnd (parameter : Variable) (type : String)
  | arrow (parameter : Variable) (type : String)

/-- Where the reader stands. -/
structure State where
  stack : List Frame
  mode : Mode

/-- A word that an expression starts with. -/
def start (word : String) : Mode :=
  if word = "this" then .after .self
  else if word = "true" then .after (.literal (.truth true))
  else if word = "false" then .after (.literal (.truth false))
  else if word = "super" then .afterSuper
  else if word = "new" then .afterNew
  else .after (.name word)

/-- The functions whose body ends with an expression, with what they are open in. -/
def settle : List Frame → Expr → List Frame × Expr
  | .body parameter type :: stack, e => settle stack (.lambda parameter type e)
  | stack, e => (stack, e)

/-- Where the reader stands after an expression that is complete and a mark that ends it. -/
def complete : Mark → List Frame × Expr → Option State
  | .closing, (.group :: stack, e) => some ⟨stack, .after e⟩
  | .closeBracket, (.index values :: stack, e) => some ⟨stack, .after (.index values e)⟩
  | .comma, (.items listing done :: stack, e) =>
    some ⟨.items listing (done ++ [e]) :: stack, .expression⟩
  | m, (.items listing done :: stack, e) =>
    if m = listing.ending then some ⟨stack, .after (listing.make (done ++ [e]))⟩ else none
  | _, _ => none

/-- Where the reader stands after a token. -/
def step : State → Token → Option State
  | ⟨stack, .expression⟩, .word word => some ⟨stack, start word⟩
  | ⟨stack, .expression⟩, .number value => some ⟨stack, .after (.literal (.number value))⟩
  | ⟨stack, .expression⟩, .quoted value => some ⟨stack, .after (.literal (.text value))⟩
  | ⟨stack, .expression⟩, .mark .opening => some ⟨.group :: stack, .expression⟩
  | ⟨stack, .expression⟩, .mark .openBracket => some ⟨.items .list [] :: stack, .expression⟩
  | ⟨.items listing [] :: stack, .expression⟩, .mark m =>
    if m = listing.ending then some ⟨stack, .after (listing.make [])⟩ else none
  -- What goes on with an expression comes before the marks that end it.
  | ⟨stack, .after e⟩, .mark .dot => some ⟨stack, .field e⟩
  | ⟨stack, .after e⟩, .mark .openBracket => some ⟨.index e :: stack, .expression⟩
  | ⟨stack, .after e⟩, .mark .blank => some ⟨stack, .castWord e⟩
  | ⟨.group :: stack, .after (.name name)⟩, .mark .colon => some ⟨stack, .parameterType name⟩
  | ⟨stack, .after (.member receiver method)⟩, .mark .opening =>
    some ⟨.items (.call receiver method []) [] :: stack, .expression⟩
  | ⟨stack, .after (.member receiver method)⟩, .mark .less =>
    some ⟨stack, .type receiver method []⟩
  | ⟨stack, .after e⟩, .mark m => complete m (settle stack e)
  | ⟨stack, .field object⟩, .word field => some ⟨stack, .after (.member object field)⟩
  | ⟨stack, .type receiver method types⟩, .word type =>
    some ⟨stack, .afterType receiver method (types ++ [type])⟩
  | ⟨stack, .afterType receiver method types⟩, .mark .comma =>
    some ⟨stack, .type receiver method types⟩
  | ⟨stack, .afterType receiver method types⟩, .mark .greater =>
    some ⟨stack, .arguments (.call receiver method types)⟩
  | ⟨stack, .arguments listing⟩, .mark .opening => some ⟨.items listing [] :: stack, .expression⟩
  | ⟨stack, .afterSuper⟩, .mark .dot => some ⟨stack, .superMethod⟩
  | ⟨stack, .superMethod⟩, .word method => some ⟨stack, .arguments (.superCall method)⟩
  | ⟨stack, .afterNew⟩, .mark .blank => some ⟨stack, .newType⟩
  | ⟨stack, .newType⟩, .word type => some ⟨stack, .arguments (.new type)⟩
  | ⟨stack, .castWord value⟩, .word word =>
    if word = "as" then some ⟨stack, .castBlank value⟩ else none
  | ⟨stack, .castBlank value⟩, .mark .blank => some ⟨stack, .castType value⟩
  | ⟨stack, .castType value⟩, .word type => some ⟨stack, .after (.cast value type)⟩
  | ⟨stack, .parameterType name⟩, .word type => some ⟨stack, .parameterEnd ⟨name, type⟩⟩
  | ⟨stack, .parameterEnd parameter⟩, .mark .closing => some ⟨stack, .resultColon parameter⟩
  | ⟨stack, .resultColon parameter⟩, .mark .colon => some ⟨stack, .resultType parameter⟩
  | ⟨stack, .resultType parameter⟩, .word type => some ⟨stack, .resultEnd parameter type⟩
  | ⟨stack, .resultEnd parameter type⟩, .mark .blank => some ⟨stack, .arrow parameter type⟩
  | ⟨stack, .arrow parameter type⟩, .mark .arrow =>
    some ⟨.body parameter type :: stack, .expression⟩
  | _, _ => none

/-- Where the reader stands after tokens. -/
def run : State → List Token → Option State
  | s, [] => some s
  | s, t :: ts => (step s t).bind fun s => run s ts

/-- The expression that is read, if nothing is left open. -/
def result : State → Option Expr
  | ⟨stack, .after e⟩ =>
    match settle stack e with
    | ([], e) => some e
    | _ => none
  | _ => none

/-- The expression that tokens are read as. -/
def read (ts : List Token) : Option Expr :=
  (run ⟨[], .expression⟩ ts).bind result

/-! ## Reading the tokens of an expression -/

theorem run_of_step {s s' : State} {t : Token} (h : step s t = some s') (ts : List Token) :
  run s (t :: ts) = run s' ts
  := by
  rw [run, h]
  rfl

/-- Where the reader stands after the tokens of what is read as an expression. -/
def given (stack : List Frame) : Expr → State
  | .lambda parameter type body => given (.body parameter type :: stack) body
  | e => ⟨stack, .after e⟩

/-- A mark that ends an expression ends the functions whose body it is, too. -/
theorem step_given {m : Mark} (h : m = .comma ∨ m = .closing ∨ m = .closeBracket)
    (stack : List Frame) (e : Expr) :
  step (given stack e) (.mark m) = complete m (settle stack e)
  := by
  fun_induction given stack e with
  | case1 stack parameter type body ih => apply ih
  | case2 stack e _ => obtain rfl | rfl | rfl := h <;> rfl

/-- A cast that follows an expression is one of the body, if it is a function. -/
theorem run_given_cast (stack : List Frame) (e : Expr) (type : String) (ts : List Token) :
  run (given stack e) (.mark .blank :: .word "as" :: .mark .blank :: .word type :: ts)
    = run (given stack (e.castWithin type)) ts
  := by
  fun_induction given stack e with
  | case1 stack parameter result body ih => apply ih
  | case2 stack e h =>
      rw [Expr.castWithin]
      · rfl
      · apply h

theorem result_given (stack : List Frame) (e : Expr) :
  result (given stack e) = result ⟨stack, .after e⟩
  := by
  fun_induction given stack e with
  | case1 stack parameter type body ih => apply ih
  | case2 stack e _ => rfl

/-- A word that is not reserved is a name. -/
theorem step_word {word : String} (h : word ∉ Name.reserved) (stack : List Frame) :
  step ⟨stack, .expression⟩ (.word word) = some ⟨stack, .after (.name word)⟩
  := by
  have ne {other : String} (mem : other ∈ Name.reserved) : word ≠ other := by
    rintro rfl
    apply h mem
  rw [step, start, if_neg (ne (by decide)), if_neg (ne (by decide)), if_neg (ne (by decide)),
    if_neg (ne (by decide)), if_neg (ne (by decide))]

theorem run_typeArguments (stack : List Frame) (receiver : Expr) (method : String)
    {types : List String} (nonempty : types ≠ []) (done : List String) (ts : List Token) :
  run ⟨stack, .type receiver method done⟩
      (Token.separated (types.map fun type => [.word type]) ++ .mark .greater :: ts)
    = run ⟨stack, .arguments (.call receiver method (done ++ types))⟩ ts
  := by
  induction types generalizing done with
  | nil => cases nonempty rfl
  | cons type types ih =>
      cases types with
      | nil => rfl
      | cons next rest =>
          have later := ih (by simp) (done ++ [type])
          rw [List.append_assoc] at later
          exact later

theorem run_ofTypes (stack : List Frame) (receiver : Expr) (method : String)
    (types : List String) (ts : List Token) :
  run ⟨stack, .after (.member receiver method)⟩ (Token.ofTypes types ++ .mark .opening :: ts)
    = run ⟨.items (.call receiver method types) [] :: stack, .expression⟩ ts
  := by
  rw [Token.ofTypes]
  split
  · next empty =>
    subst empty
    rfl
  · next nonempty =>
    rw [List.append_assoc]
    exact run_typeArguments stack receiver method nonempty [] (.mark .opening :: ts)

/-- An expression that is read from its tokens wherever an expression is to come, whatever
follows. -/
def ReadsAsRead (e : Expr) : Prop :=
  ∀ stack ts, run ⟨stack, .expression⟩ (e.tokens ++ ts) = run (given stack e.asRead) ts

theorem given_of_not_isLoose {e : Expr} (h : ¬ e.isLoose) (stack : List Frame) :
  given stack e = ⟨stack, .after e⟩
  := by
  cases e with
  | lambda parameter type body => cases h rfl
  | _ => rfl

/-- The left side of an access is read as an expression by itself. -/
theorem run_grouped {e : Expr} (h : ReadsAsRead e) (stack : List Frame) (ts : List Token) :
  run ⟨stack, .expression⟩ (e.grouped e.tokens ++ ts) = run ⟨stack, .after e.asRead⟩ ts
  := by
  rw [Expr.grouped]
  split
  · rw [List.append_assoc]
    show run ⟨.group :: stack, .expression⟩ (e.tokens ++ .mark .closing :: ts) = _
    rw [h]
    apply run_of_step
    apply step_given (.inr (.inl rfl))
  · next tight =>
    rw [← Expr.isLoose_asRead] at tight
    rw [h, given_of_not_isLoose tight]

/-- Expressions between commas are read one after another. -/
theorem run_items {es : List Expr} (each : ∀ e ∈ es, ReadsAsRead e) (listing : Listing)
    (done : List Expr) (h : es ≠ [] ∨ done = []) (stack : List Frame) (ts : List Token) :
  run ⟨.items listing done :: stack, .expression⟩
      (Token.separated (Expr.tokensAll es) ++ .mark listing.ending :: ts)
    = run ⟨stack, .after (listing.make (done ++ Expr.asReadAll es))⟩ ts
  := by
  induction es generalizing done with
  | nil =>
      obtain nonempty | rfl := h
      · cases nonempty rfl
      · apply run_of_step
        cases listing <;> rfl
  | cons e es ih =>
      obtain ⟨first, later⟩ := List.forall_mem_cons.mp each
      cases es with
      | nil =>
          show run _ (e.tokens ++ _) = _
          rw [first]
          apply run_of_step
          rw [step_given (by cases listing <;> simp [Listing.ending])]
          cases listing <;> rfl
      | cons next rest =>
          show run _
            ((e.tokens ++ .mark .comma :: Token.separated (Expr.tokensAll (next :: rest))) ++ _) = _
          rw [List.append_assoc, first, List.cons_append,
            run_of_step (step_given (.inl rfl) _ _)]
          have read := ih later (done ++ [e.asRead]) (.inl (by simp))
          rw [List.append_assoc] at read
          exact read

-- The functions that a cast is written after are still open when it is read, so that nothing has
-- to be known of what follows an expression.
mutual

/-- The tokens of an expression are read as what it stands for. -/
theorem readsAsRead {e : Expr} (h : ∀ word ∈ e.words, word ∉ Name.reserved) :
  ReadsAsRead e
  := by
  intro stack ts
  cases e with
  | name id =>
      apply run_of_step
      apply step_word (h id List.mem_cons_self)
  | self => rfl
  | literal value =>
      cases value with
      | truth value => cases value <;> rfl
      | _ => rfl
  | member object field =>
      obtain ⟨-, inner⟩ := List.forall_mem_cons.mp h
      rw [Expr.tokens, List.append_assoc, run_grouped (readsAsRead inner)]
      rfl
  | index values position =>
      obtain ⟨left, right⟩ := List.forall_mem_append.mp h
      rw [Expr.tokens, List.append_assoc, List.append_assoc, run_grouped (readsAsRead left)]
      show run ⟨.index values.asRead :: stack, .expression⟩
        (position.tokens ++ .mark .closeBracket :: ts) = _
      rw [readsAsRead right]
      apply run_of_step
      apply step_given (.inr (.inr rfl))
  | call receiver method arguments types =>
      simp only [Expr.words, List.forall_mem_cons, List.cons_append, List.forall_mem_append] at h
      obtain ⟨-, ⟨-, left⟩, right⟩ := h
      simp only [Expr.tokens, List.append_assoc, List.cons_append]
      rw [run_grouped (readsAsRead left)]
      show run ⟨stack, .after (.member receiver.asRead method)⟩ _ = _
      rw [run_ofTypes]
      apply run_items (forall_readsAsRead right) (.call receiver.asRead method types) [] (.inr rfl)
  | staticCall owner method arguments types =>
      simp only [Expr.words, List.forall_mem_cons, List.cons_append, List.forall_mem_append] at h
      obtain ⟨owned, -, -, right⟩ := h
      simp only [Expr.tokens, List.append_assoc, List.cons_append]
      rw [run_of_step (step_word owned stack)]
      show run ⟨stack, .after (.member (.name owner) method)⟩ _ = _
      rw [run_ofTypes]
      apply run_items (forall_readsAsRead right) (.call (.name owner) method types) [] (.inr rfl)
  | superCall method arguments =>
      obtain ⟨-, right⟩ := List.forall_mem_cons.mp h
      rw [Expr.tokens, List.append_assoc]
      apply run_items (forall_readsAsRead right) (.superCall method) [] (.inr rfl)
  | new type arguments =>
      obtain ⟨-, right⟩ := List.forall_mem_cons.mp h
      rw [Expr.tokens, List.append_assoc]
      apply run_items (forall_readsAsRead right) (.new type) [] (.inr rfl)
  | cast value type =>
      obtain ⟨-, inner⟩ := List.forall_mem_cons.mp h
      rw [Expr.tokens, List.append_assoc, readsAsRead inner]
      apply run_given_cast
  | list elements =>
      rw [Expr.tokens, List.append_assoc]
      apply run_items (forall_readsAsRead h) .list [] (.inr rfl)
  | lambda parameter type body =>
      simp only [Expr.words, List.forall_mem_cons] at h
      obtain ⟨named, -, -, inner⟩ := h
      show run ⟨.group :: stack, .expression⟩ (.word parameter.name :: _) = _
      rw [run_of_step (step_word named _)]
      show run ⟨.body parameter type :: stack, .expression⟩ (body.tokens ++ ts) = _
      rw [readsAsRead inner]
      rfl

/-- The tokens of each of a list of expressions are read as what it stands for. -/
theorem forall_readsAsRead {es : List Expr}
    (h : ∀ word ∈ Expr.wordsAll es, word ∉ Name.reserved) :
  ∀ e ∈ es, ReadsAsRead e
  := by
  obtain _ | ⟨e, es⟩ := es
  · apply List.forall_mem_nil
  · obtain ⟨first, later⟩ := List.forall_mem_append.mp h
    exact List.forall_mem_cons.mpr ⟨readsAsRead first, forall_readsAsRead later⟩

end

/-- What is read from the tokens of an expression. -/
theorem read_tokens {e : Expr} (h : ∀ word ∈ e.words, word ∉ Name.reserved) :
  read e.tokens = some e.asRead
  := by
  have reached := readsAsRead h [] []
  rw [List.append_nil] at reached
  rw [read, reached]
  apply result_given

end Reader

end ContractBindings
