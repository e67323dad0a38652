import ContractBindings.Proofs.Code.Tokenized
import ContractBindings.Proofs.Code.Variables

/-!
# Literals of a text

A scanner goes through a text from left to right and collects the literals in it.  A quote opens a
literal, a backslash inside of one makes a plain character of whatever follows, and the next quote
that is not escaped closes the literal.

In the text of an expression whose names and types are free of quotes the scanner finds the texts
that the expression holds as literals, in order, and ends outside.  So no character of a literal can
be read as code, whatever the literal holds.
-/

namespace ContractBindings

namespace Text

/-! ## The scanner -/

/-- Where a scanner is: outside of literals, inside of one whose first characters have been read,
or there right after a backslash. -/
inductive ScanState where
  | outside
  | inside (read : List Char)
  | escaped (read : List Char)

/-- A scanner with the values of the literals that it has left behind. -/
structure Scanner where
  state : ScanState
  values : List String

namespace Scanner

/-- The scanner after one more character. -/
def step : Scanner → Char → Scanner
  | ⟨.outside, values⟩, c => if c = '\x27' then ⟨.inside [], values⟩ else ⟨.outside, values⟩
  | ⟨.inside read, values⟩, c =>
    if c = '\\' then ⟨.escaped read, values⟩
    else if c = '\x27' then ⟨.outside, values ++ [String.ofList read]⟩
    else ⟨.inside (read ++ [c]), values⟩
  | ⟨.escaped read, values⟩, c => ⟨.inside (read ++ [c]), values⟩

/-- The scanner after a text. -/
def run (s : Scanner) (text : String) : Scanner :=
  text.toList.foldl step s

@[simp]
theorem run_empty (s : Scanner) :
  s.run "" = s
  := rfl

@[simp]
theorem run_append (s : Scanner) (text more : String) :
  s.run (text ++ more) = (s.run text).run more
  := by
  simp [run]

/-- Outside of literals a text without quotes does not matter. -/
theorem run_of_notMem {text : String} (h : '\x27' ∉ text.toList) (values : List String) :
  run ⟨.outside, values⟩ text = ⟨.outside, values⟩
  := by
  rw [run]
  generalize text.toList = cs at h
  induction cs with
  | nil => rfl
  | cons c cs ih =>
      rw [List.mem_cons, not_or] at h
      rw [List.foldl_cons, step, if_neg (Ne.symm h.1)]
      apply ih h.2

/-- Inside of a literal the written form of a character is read as this character. -/
theorem foldl_escapeChar (read : List Char) (values : List String) (c : Char) :
  (escapeChar c).foldl step ⟨.inside read, values⟩ = ⟨.inside (read ++ [c]), values⟩
  := by
  rw [escapeChar]
  split
  · rfl
  · next plain =>
    rw [not_or] at plain
    rw [List.foldl_cons, step, if_neg plain.1, if_neg plain.2, List.foldl_nil]

/-- Inside of a literal the written form of characters is read as these characters. -/
theorem foldl_escapeChars (read : List Char) (values : List String) (cs : List Char) :
  (escapeChars cs).foldl step ⟨.inside read, values⟩ = ⟨.inside (read ++ cs), values⟩
  := by
  induction cs generalizing read with
  | nil => simp [escapeChars]
  | cons c cs ih =>
      rw [escapeChars_cons, List.foldl_append, foldl_escapeChar, ih, List.append_assoc]
      rfl

/-- The literal of a text is read as this text. -/
theorem run_quoted (values : List String) (value : String) :
  run ⟨.outside, values⟩ (quoted value) = ⟨.outside, values ++ [value]⟩
  := by
  rw [run, toList_quoted, List.cons_append, List.foldl_cons, List.foldl_append]
  change ((escapeChars value.toList).foldl step ⟨.inside [], values⟩).step '\x27' = _
  rw [foldl_escapeChars]
  simp [step]

end Scanner

/-- The scanner that has gone through a whole text. -/
def scan (text : String) : Scanner :=
  Scanner.run ⟨.outside, []⟩ text

end Text

open Text

/-! ## Tokens -/

namespace Token

/-- The text that a token holds as a literal. -/
def value? : Token → Option String
  | quoted value => some value
  | _ => none

/-- The texts that tokens hold as literals, in order. -/
def values (ts : List Token) : List String :=
  ts.filterMap value?

@[simp]
theorem values_nil :
  values [] = []
  := rfl

@[simp]
theorem values_append (ts ts' : List Token) :
  values (ts ++ ts') = values ts ++ values ts'
  := List.filterMap_append

theorem values_cons (t : Token) (ts : List Token) :
  values (t :: ts) = t.value?.toList ++ values ts
  := by
  cases t <;> rfl

@[simp]
theorem values_word_cons (text : String) (ts : List Token) :
  values (word text :: ts) = values ts
  := rfl

@[simp]
theorem values_mark_cons (m : Mark) (ts : List Token) :
  values (mark m :: ts) = values ts
  := rfl

/-- The literals between commas are those of all items. -/
@[simp]
theorem values_separated (tss : List (List Token)) :
  values (separated tss) = tss.flatMap values
  := by
  fun_induction separated with
  | case1 => rfl
  | case2 ts => simp
  | case3 ts next rest ih => rw [values_append, values_mark_cons, ih, ← List.flatMap_cons]

@[simp]
theorem values_ofTypes (types : List String) :
  values (ofTypes types) = []
  := by
  rw [ofTypes]
  split
  · rfl
  · simp [List.flatMap_map]

/-- A token that is not a word with a quote in it. -/
def Unquoted : Token → Prop
  | word text => '\x27' ∉ text.toList
  | _ => True

/-- Tokens none of which is a word with a quote in it. -/
def AllUnquoted (ts : List Token) : Prop :=
  ∀ t ∈ ts, t.Unquoted

@[simp]
theorem allUnquoted_nil :
  AllUnquoted []
  := List.forall_mem_nil _

@[simp]
theorem allUnquoted_append (ts ts' : List Token) :
  AllUnquoted (ts ++ ts') ↔ AllUnquoted ts ∧ AllUnquoted ts'
  := List.forall_mem_append

theorem allUnquoted_cons (t : Token) (ts : List Token) :
  AllUnquoted (t :: ts) ↔ t.Unquoted ∧ AllUnquoted ts
  := List.forall_mem_cons

@[simp]
theorem allUnquoted_word_cons (text : String) (ts : List Token) :
  AllUnquoted (word text :: ts) ↔ '\x27' ∉ text.toList ∧ AllUnquoted ts
  := List.forall_mem_cons

@[simp]
theorem allUnquoted_mark_cons (m : Mark) (ts : List Token) :
  AllUnquoted (mark m :: ts) ↔ AllUnquoted ts
  := by
  simp [allUnquoted_cons, Unquoted]

theorem allUnquoted_separated {tss : List (List Token)} (h : ∀ ts ∈ tss, AllUnquoted ts) :
  AllUnquoted (separated tss)
  := by
  fun_induction separated with
  | case1 => apply allUnquoted_nil
  | case2 ts => apply h ts List.mem_cons_self
  | case3 ts next rest ih =>
      obtain ⟨first, later⟩ := List.forall_mem_cons.mp h
      rw [allUnquoted_append, allUnquoted_mark_cons]
      exact ⟨first, ih later⟩

theorem allUnquoted_ofTypes {types : List String} (h : ∀ type ∈ types, '\x27' ∉ type.toList) :
  AllUnquoted (ofTypes types)
  := by
  rw [ofTypes]
  split
  · apply allUnquoted_nil
  · have words : AllUnquoted (separated (types.map fun type => [word type])) := by
      apply allUnquoted_separated
      simpa using h
    simpa using words

/-! ## What the scanner finds -/

/-- The scanner finds in a token the text that it holds as a literal. -/
theorem run_text {t : Token} (h : t.Unquoted) (values : List String) :
  Scanner.run ⟨.outside, values⟩ t.text = ⟨.outside, values ++ t.value?.toList⟩
  := by
  have plain (apart : '\x27' ∉ t.text.toList) :
      Scanner.run ⟨.outside, values⟩ t.text = ⟨.outside, values ++ []⟩ := by
    rw [List.append_nil, Scanner.run_of_notMem apart]
  cases t with
  | word text => apply plain h
  | number value =>
      apply plain
      intro mem
      cases forall_isRunChar (t := .number value) trivial rfl _ mem
  | quoted value => apply Scanner.run_quoted
  | mark m =>
      apply plain
      cases m <;> decide

/-- The scanner finds in tokens the texts that they hold as literals. -/
theorem run_written {ts : List Token} (h : AllUnquoted ts) (found : List String) :
  Scanner.run ⟨.outside, found⟩ (written ts) = ⟨.outside, found ++ values ts⟩
  := by
  induction ts generalizing found with
  | nil => simp
  | cons t ts ih =>
      obtain ⟨first, later⟩ := (allUnquoted_cons t ts).mp h
      rw [written_cons, Scanner.run_append, run_text first, ih later, List.append_assoc,
        values_cons]

end Token

namespace Expr

open Token

/-! ## Expressions -/

/-- The text that an expression is a literal of. -/
def literalText? : Expr → Option String
  | .literal (.text value) => some value
  | _ => none

/-- The texts that an expression holds as literals, in order. -/
def literalTexts (e : Expr) : List String :=
  e.collect literalText?

@[simp]
theorem values_grouped (e : Expr) (ts : List Token) :
  values (e.grouped ts) = values ts
  := by
  rw [grouped]
  split <;> simp

@[simp]
theorem allUnquoted_grouped (e : Expr) (ts : List Token) :
  AllUnquoted (e.grouped ts) ↔ AllUnquoted ts
  := by
  rw [grouped]
  split <;> simp

mutual

/-- The tokens of an expression hold the texts that it holds as literals. -/
theorem values_tokens (e : Expr) :
  values e.tokens = e.collect literalText?
  := by
  cases e with
  | name id => rfl
  | self => rfl
  | literal value => cases value <;> rfl
  | member object field => simp [tokens, collect, literalText?, values_tokens object]
  | index values position =>
      simp [tokens, collect, literalText?, values_tokens values, values_tokens position]
  | call receiver method arguments types =>
      simp [tokens, collect, literalText?, values_tokens receiver,
        flatMap_values_tokensAll arguments]
  | staticCall owner method arguments types =>
      simp [tokens, collect, literalText?, flatMap_values_tokensAll arguments]
  | superCall method arguments =>
      simp [tokens, collect, literalText?, flatMap_values_tokensAll arguments]
  | new type arguments =>
      simp [tokens, collect, literalText?, flatMap_values_tokensAll arguments]
  | cast value type => simp [tokens, collect, literalText?, values_tokens value]
  | list elements => simp [tokens, collect, literalText?, flatMap_values_tokensAll elements]
  | lambda parameter type body => simp [tokens, collect, literalText?, values_tokens body]

theorem flatMap_values_tokensAll (es : List Expr) :
  (tokensAll es).flatMap values = collectAll literalText? es
  := by
  obtain _ | ⟨e, es⟩ := es
  · rfl
  · rw [tokensAll, collectAll, List.flatMap_cons, values_tokens e, flatMap_values_tokensAll es]

end

mutual

/-- The tokens of an expression are free of quotes when its names and types are. -/
theorem allUnquoted_tokens {e : Expr} (h : ∀ word ∈ e.words, '\x27' ∉ word.toList) :
  AllUnquoted e.tokens
  := by
  cases e with
  | name id => simpa [tokens, words] using h
  | self => simp [tokens]
  | literal value =>
      cases value with
      | truth value => cases value <;> simp [tokens, literalToken]
      | _ => simp [tokens, literalToken, allUnquoted_cons, Unquoted]
  | member object field =>
      obtain ⟨named, inner⟩ := List.forall_mem_cons.mp h
      simp [tokens, allUnquoted_tokens inner, named]
  | index values position =>
      obtain ⟨left, right⟩ := List.forall_mem_append.mp h
      simp [tokens, allUnquoted_tokens left, allUnquoted_tokens right]
  | call receiver method arguments types =>
      simp only [words, List.forall_mem_cons, List.cons_append, List.forall_mem_append] at h
      obtain ⟨named, ⟨typed, left⟩, right⟩ := h
      simp [tokens, named, allUnquoted_ofTypes typed, allUnquoted_tokens left,
        allUnquoted_separated (forall_allUnquoted_tokensAll right)]
  | staticCall owner method arguments types =>
      simp only [words, List.forall_mem_cons, List.cons_append, List.forall_mem_append] at h
      obtain ⟨owned, named, typed, right⟩ := h
      simp [tokens, owned, named, allUnquoted_ofTypes typed,
        allUnquoted_separated (forall_allUnquoted_tokensAll right)]
  | superCall method arguments =>
      obtain ⟨named, right⟩ := List.forall_mem_cons.mp h
      simp [tokens, named, allUnquoted_separated (forall_allUnquoted_tokensAll right)]
  | new type arguments =>
      obtain ⟨named, right⟩ := List.forall_mem_cons.mp h
      simp [tokens, named, allUnquoted_separated (forall_allUnquoted_tokensAll right)]
  | cast value type =>
      obtain ⟨named, inner⟩ := List.forall_mem_cons.mp h
      simp [tokens, named, allUnquoted_tokens inner]
  | list elements =>
      simp [tokens, allUnquoted_separated (forall_allUnquoted_tokensAll h)]
  | lambda parameter type body =>
      simp only [words, List.forall_mem_cons] at h
      obtain ⟨named, typed, given, inner⟩ := h
      simp [tokens, named, typed, given, allUnquoted_tokens inner]

/-- The tokens of each of a list of expressions are free of quotes. -/
theorem forall_allUnquoted_tokensAll {es : List Expr}
    (h : ∀ word ∈ wordsAll es, '\x27' ∉ word.toList) :
  ∀ ts ∈ tokensAll es, AllUnquoted ts
  := by
  obtain _ | ⟨e, es⟩ := es
  · apply List.forall_mem_nil
  · obtain ⟨first, later⟩ := List.forall_mem_append.mp h
    rw [tokensAll, List.forall_mem_cons]
    exact ⟨allUnquoted_tokens first, forall_allUnquoted_tokensAll later⟩

end

/-- In the text of an expression whose names and types are free of quotes and backslashes the
scanner finds the texts that the expression holds as literals, in order, and ends outside. -/
theorem scan_render {e : Expr}
    (h : ∀ word ∈ e.words, '\x27' ∉ word.toList ∧ '\\' ∉ word.toList) :
  scan e.render = ⟨.outside, e.literalTexts⟩
  := by
  have unquoted : AllUnquoted e.tokens := allUnquoted_tokens fun word mem => (h word mem).1
  rw [scan, ← written_tokens, run_written unquoted, values_tokens]
  rfl

/-- A call with literals that try to end early. -/
def hostileCall : Expr :=
  .superCall "call"
    [.literal (.text "it's"),
      .list
        [.literal (.text "\\"), .literal (.text "\\\\', [])"), .cast (.name "owner") "Address",
          .literal (.text "")]]

theorem scan_render_hostileCall :
  (∀ word ∈ hostileCall.words, '\x27' ∉ word.toList ∧ '\\' ∉ word.toList)
    ∧ scan hostileCall.render = ⟨.outside, ["it's", "\\", "\\\\', [])", ""]⟩
  := by
  have plain : ∀ word ∈ hostileCall.words, '\x27' ∉ word.toList ∧ '\\' ∉ word.toList := by
    decide +kernel
  use plain
  apply scan_render plain

end Expr

end ContractBindings
