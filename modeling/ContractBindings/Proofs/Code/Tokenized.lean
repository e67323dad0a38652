import ContractBindings.Proofs.Code.Token

/-!
# Expressions as tokens

The tokens that the text of an expression falls into.  They are legible when all the words of the
expression are, so that they are told by the text.
-/

namespace ContractBindings

/-! ## Tokens between commas -/

namespace Token

/-- Lists of tokens with a comma between each two. -/
def separated : List (List Token) → List Token
  | [] => []
  | [ts] => ts
  | ts :: next :: rest => ts ++ mark .comma :: separated (next :: rest)

theorem written_separated (tss : List (List Token)) :
  written (separated tss) = Text.commaSeparated (tss.map written)
  := by
  fun_induction separated with
  | case1 => rfl
  | case2 ts => simp
  | case3 ts next rest ih =>
      rw [written_append, written_cons, ih]
      simp [Text.commaSeparated_cons_cons, text, Mark.text, String.append_assoc]

theorem legible_separated {tss : List (List Token)} (h : ∀ ts ∈ tss, Legible ts) :
  Legible (separated tss)
  := by
  fun_induction separated with
  | case1 => apply legible_nil
  | case2 ts => apply h ts List.mem_cons_self
  | case3 ts next rest ih =>
      obtain ⟨first, later⟩ := List.forall_mem_cons.mp h
      exact (legible_append_mark_cons ts _ _).mpr ⟨first, ih later⟩

/-- The tokens of type arguments. -/
def ofTypes (types : List String) : List Token :=
  if types = [] then []
  else mark .less :: separated (types.map fun type => [word type]) ++ [mark .greater]

theorem written_ofTypes (types : List String) :
  written (ofTypes types) = renderTypes types
  := by
  rw [ofTypes, renderTypes]
  split
  · rfl
  · have words : (types.map fun type => [word type]).map written = types := by
      simp [text, Function.comp_def]
    simp [written_separated, words, text, Mark.text, String.append_assoc]

end Token

open Token

namespace Expr

/-! ## Tokens of expressions -/

/-- The tokens of an expression on the left side of an access. -/
def grouped (e : Expr) (ts : List Token) : List Token :=
  if e.isLoose then .mark .opening :: ts ++ [.mark .closing] else ts

theorem written_grouped (e : Expr) (ts : List Token) :
  written (e.grouped ts) = e.operand (written ts)
  := by
  rw [grouped, operand]
  split
  · simp [text, Mark.text, String.append_assoc]
  · rfl

theorem legible_grouped (e : Expr) {ts : List Token} (legible : Legible ts) :
  Legible (e.grouped ts)
  := by
  rw [grouped]
  split
  · simpa using legible
  · apply legible

/-- The token of a literal. -/
def literalToken : Literal → Token
  | .text value => .quoted value
  | .number value => .number value
  | .truth value => .word (if value then "true" else "false")

mutual

/-- The tokens that the text of an expression falls into. -/
def tokens : Expr → List Token
  | .name id => [.word id]
  | .self => [.word "this"]
  | .literal value => [literalToken value]
  | .member object field => object.grouped object.tokens ++ [.mark .dot, .word field]
  | .index values position =>
    values.grouped values.tokens ++ .mark .openBracket :: position.tokens
      ++ [.mark .closeBracket]
  | .call receiver method arguments types =>
    receiver.grouped receiver.tokens ++ .mark .dot :: .word method :: ofTypes types
      ++ .mark .opening :: separated (tokensAll arguments) ++ [.mark .closing]
  | .staticCall owner method arguments types =>
    .word owner :: .mark .dot :: .word method :: ofTypes types
      ++ .mark .opening :: separated (tokensAll arguments) ++ [.mark .closing]
  | .superCall method arguments =>
    .word "super" :: .mark .dot :: .word method :: .mark .opening
      :: separated (tokensAll arguments) ++ [.mark .closing]
  | .new type arguments =>
    .word "new" :: .mark .blank :: .word type :: .mark .opening
      :: separated (tokensAll arguments) ++ [.mark .closing]
  | .cast value type => value.tokens ++ [.mark .blank, .word "as", .mark .blank, .word type]
  | .list elements =>
    .mark .openBracket :: separated (tokensAll elements) ++ [.mark .closeBracket]
  | .lambda parameter type body =>
    .mark .opening :: .word parameter.name :: .mark .colon :: .word parameter.type
      :: .mark .closing :: .mark .colon :: .word type :: .mark .blank :: .mark .arrow
      :: body.tokens

/-- The tokens of each of a list of expressions. -/
def tokensAll : List Expr → List (List Token)
  | [] => []
  | e :: es => e.tokens :: tokensAll es

end

/-! ## Their texts -/

theorem text_literalToken (value : Literal) :
  (literalToken value).text = value.render
  := by
  cases value with
  | text value => rfl
  | number value => rfl
  | truth value => cases value <;> rfl

mutual

/-- The text of an expression is that of its tokens. -/
theorem written_tokens (e : Expr) :
  written e.tokens = e.render
  := by
  cases e with
  | name id => simp [tokens, render, text]
  | self => rfl
  | literal value => simp [tokens, render, text_literalToken]
  | member object field =>
      simp [tokens, render, written_grouped, written_tokens object, text, Mark.text,
        String.append_assoc]
  | index values position =>
      simp [tokens, render, written_grouped, written_tokens values, written_tokens position, text,
        Mark.text, String.append_assoc]
  | call receiver method arguments types =>
      simp [tokens, render, written_grouped, written_tokens receiver, written_ofTypes,
        written_separated, map_written_tokensAll arguments, text, Mark.text, String.append_assoc]
  | staticCall owner method arguments types =>
      simp [tokens, render, written_ofTypes, written_separated, map_written_tokensAll arguments,
        text, Mark.text, String.append_assoc]
  | superCall method arguments =>
      have word (rest : String) : "super." ++ rest = "super" ++ ("." ++ rest) := by
        rw [← String.append_assoc]
        rfl
      simp [tokens, render, written_separated, map_written_tokensAll arguments, text, Mark.text,
        String.append_assoc, word]
  | new type arguments =>
      have word (rest : String) : "new " ++ rest = "new" ++ (" " ++ rest) := by
        rw [← String.append_assoc]
        rfl
      simp [tokens, render, written_separated, map_written_tokensAll arguments, text, Mark.text,
        String.append_assoc, word]
  | cast value type =>
      have word : " as " ++ type = " " ++ ("as" ++ (" " ++ type)) := by
        rw [← String.append_assoc, ← String.append_assoc]
        rfl
      simp [tokens, render, written_tokens value, text, Mark.text, String.append_assoc, word]
  | list elements =>
      simp [tokens, render, written_separated, map_written_tokensAll elements, text, Mark.text,
        String.append_assoc]
  | lambda parameter type body =>
      have ending (rest : String) : "): " ++ rest = ")" ++ (": " ++ rest) := by
        rw [← String.append_assoc]
        rfl
      have arrow (rest : String) : " => " ++ rest = " " ++ ("=> " ++ rest) := by
        rw [← String.append_assoc]
        rfl
      simp [tokens, render, Variable.render, written_tokens body, text, Mark.text,
        String.append_assoc, ending, arrow]

theorem map_written_tokensAll (es : List Expr) :
  (tokensAll es).map written = renderAll es
  := by
  obtain _ | ⟨e, es⟩ := es
  · rfl
  · rw [tokensAll, renderAll, List.map_cons, written_tokens e, map_written_tokensAll es]

end

/-! ## Plain expressions -/

mutual

/-- The names and types in an expression. -/
def words : Expr → List String
  | .name id => [id]
  | .self => []
  | .literal _ => []
  | .member object field => field :: object.words
  | .index values position => values.words ++ position.words
  | .call receiver method arguments types =>
    method :: types ++ receiver.words ++ wordsAll arguments
  | .staticCall owner method arguments types => owner :: method :: types ++ wordsAll arguments
  | .superCall method arguments => method :: wordsAll arguments
  | .new type arguments => type :: wordsAll arguments
  | .cast value type => type :: value.words
  | .list elements => wordsAll elements
  | .lambda parameter type body => parameter.name :: parameter.type :: type :: body.words

/-- The names and types in a list of expressions. -/
def wordsAll : List Expr → List String
  | [] => []
  | e :: es => e.words ++ wordsAll es

end

/-- An expression whose names and types are all identifiers. -/
def Plain (e : Expr) : Prop :=
  ∀ word ∈ e.words, Name.IsIdentifier word

instance (e : Expr) : Decidable e.Plain :=
  inferInstanceAs (Decidable (∀ word ∈ e.words, Name.IsIdentifier word))

theorem legible_word_ofTypes {method : String} {types : List String}
    (named : Name.isWord method) (words : ∀ type ∈ types, Name.isWord type) :
  Legible (.word method :: ofTypes types)
  := by
  rw [ofTypes]
  split
  · simpa using named
  · have separate : Legible (separated (types.map fun type => [.word type])) := by
      apply legible_separated
      simpa using words
    simp [named, separate]

mutual

/-- The tokens of an expression are legible when its names and types are words. -/
theorem legible_tokens {e : Expr} (h : ∀ word ∈ e.words, Name.isWord word) :
  Legible e.tokens
  := by
  cases e with
  | name id => simpa [tokens, words] using h
  | self =>
      rw [tokens, legible_singleton, proper_word]
      decide
  | literal value =>
      rw [tokens, legible_singleton]
      cases value with
      | truth value =>
          rw [literalToken, proper_word]
          cases value <;> decide
      | _ => trivial
  | member object field =>
      obtain ⟨named, inner⟩ := List.forall_mem_cons.mp h
      simp [tokens, legible_grouped, legible_tokens inner, named]
  | index values position =>
      obtain ⟨left, right⟩ := List.forall_mem_append.mp h
      simp only [tokens, legible_append_mark_cons, legible_nil, and_true]
      exact ⟨legible_grouped values (legible_tokens left), legible_tokens right⟩
  | call receiver method arguments types =>
      simp only [words, List.forall_mem_cons, List.cons_append, List.forall_mem_append] at h
      obtain ⟨named, ⟨typed, left⟩, right⟩ := h
      simp only [tokens, legible_append_mark_cons, legible_nil, and_true]
      exact ⟨⟨legible_grouped receiver (legible_tokens left), legible_word_ofTypes named typed⟩,
        legible_separated (forall_legible_tokensAll right)⟩
  | staticCall owner method arguments types =>
      simp only [words, List.forall_mem_cons, List.cons_append, List.forall_mem_append] at h
      obtain ⟨owned, named, typed, right⟩ := h
      rw [tokens, legible_append_mark_cons, legible_append_mark_cons, legible_word_mark_cons]
      exact ⟨⟨⟨owned, legible_word_ofTypes named typed⟩,
        legible_separated (forall_legible_tokensAll right)⟩, legible_nil⟩
  | superCall method arguments =>
      obtain ⟨named, right⟩ := List.forall_mem_cons.mp h
      rw [tokens, legible_append_mark_cons, legible_word_mark_cons, legible_word_mark_cons]
      exact ⟨⟨by decide, named, legible_separated (forall_legible_tokensAll right)⟩, legible_nil⟩
  | new type arguments =>
      obtain ⟨named, right⟩ := List.forall_mem_cons.mp h
      rw [tokens, legible_append_mark_cons, legible_word_mark_cons, legible_word_mark_cons]
      exact ⟨⟨by decide, named, legible_separated (forall_legible_tokensAll right)⟩, legible_nil⟩
  | cast value type =>
      obtain ⟨named, inner⟩ := List.forall_mem_cons.mp h
      rw [tokens, legible_append_mark_cons, legible_word_mark_cons, legible_singleton]
      exact ⟨legible_tokens inner, by decide, named⟩
  | list elements =>
      rw [tokens, legible_append_mark_cons, legible_mark_cons]
      exact ⟨legible_separated (forall_legible_tokensAll h), legible_nil⟩
  | lambda parameter type body =>
      simp only [words, List.forall_mem_cons] at h
      obtain ⟨named, typed, given, inner⟩ := h
      simp only [tokens, legible_mark_cons, legible_word_mark_cons]
      exact ⟨named, typed, given, legible_tokens inner⟩

/-- The tokens of each of a list of expressions are legible. -/
theorem forall_legible_tokensAll {es : List Expr} (h : ∀ word ∈ wordsAll es, Name.isWord word) :
  ∀ ts ∈ tokensAll es, Legible ts
  := by
  obtain _ | ⟨e, es⟩ := es
  · apply List.forall_mem_nil
  · obtain ⟨first, later⟩ := List.forall_mem_append.mp h
    rw [tokensAll, List.forall_mem_cons]
    exact ⟨legible_tokens first, forall_legible_tokensAll later⟩

end

end Expr

end ContractBindings
