import ContractBindings.Code.Render
import ContractBindings.Name.Reserved
import Mathlib.Data.List.Chain
import Mathlib.Data.List.TakeWhile
import Mathlib.Tactic.Common

/-!
# Tokens

The text of an expression is a sequence of tokens: words, numbers, quoted texts and marks.  A
word or a number goes on for as long as there are characters of words, so it has to be followed
by a mark.

`Token.eq_of_written_eq` says that a text is the sequence of one list of such tokens at most.
-/

namespace ContractBindings

/-! ## Words -/

namespace Name

/-- A letter, a digit, an underscore, a dollar sign, or any character beyond ASCII. -/
def isWordChar (c : Char) : Bool :=
  c.isAlphanum || c == '_' || c == '$' || decide (128 ≤ c.toNat)

/-- Whether a text is made of characters of words, of which the first is not a digit. -/
def isWord (text : String) : Bool :=
  match text.toList with
  | [] => false
  | c :: cs => !c.isDigit && (c :: cs).all isWordChar

/-- A word that stands for something else than itself. -/
def IsIdentifier (text : String) : Prop :=
  isWord text ∧ text ∉ reserved

instance (text : String) : Decidable (IsIdentifier text) :=
  inferInstanceAs (Decidable (_ ∧ _))

end Name

open Name

/-! ## Marks and tokens -/

/-- What stands between words. -/
inductive Mark where
  | dot
  | comma
  | colon
  | blank
  | arrow
  | less
  | greater
  | opening
  | closing
  | openBracket
  | closeBracket
deriving DecidableEq

/-- The text of a mark. -/
def Mark.text : Mark → String
  | dot => "."
  | comma => ", "
  | colon => ": "
  | blank => " "
  | arrow => "=> "
  | less => "<"
  | greater => ">"
  | opening => "("
  | closing => ")"
  | openBracket => "["
  | closeBracket => "]"

/-- The first character of a mark. -/
def Mark.start : Mark → Char
  | dot => '.'
  | comma => ','
  | colon => ':'
  | blank => ' '
  | arrow => '='
  | less => '<'
  | greater => '>'
  | opening => '('
  | closing => ')'
  | openBracket => '['
  | closeBracket => ']'

theorem Mark.toList_text (m : Mark) :
  ∃ cs, m.text.toList = m.start :: cs
  := by
  cases m <;> exact ⟨_, rfl⟩

/-- Marks differ in their first characters already. -/
theorem Mark.start_inj {m m' : Mark} (h : m.start = m'.start) :
  m = m'
  := by
  revert h
  cases m <;> cases m' <;> decide

/-- A part of a text that is not divided any further. -/
inductive Token where
  | word (text : String)
  | number (value : Int)
  | quoted (value : String)
  | mark (m : Mark)

namespace Token

/-- The text of a token. -/
def text : Token → String
  | word text => text
  | number value => toString value
  | quoted value => Text.quoted value
  | mark m => m.text

/-- The text of tokens one after another. -/
def written (ts : List Token) : String :=
  String.join (ts.map text)

@[simp]
theorem written_nil :
  written [] = ""
  := rfl

@[simp]
theorem written_cons (t : Token) (ts : List Token) :
  written (t :: ts) = t.text ++ written ts
  := by
  simp [written]

@[simp]
theorem written_append (ts ts' : List Token) :
  written (ts ++ ts') = written ts ++ written ts'
  := by
  simp [written]

/-- Whether a token is a word or a number, which go on with any character of a word. -/
def isRun : Token → Bool
  | word _ => true
  | number _ => true
  | quoted _ => false
  | mark _ => false

/-- A token whose word, if it is one, is made of characters of words. -/
def Proper : Token → Prop
  | word text => isWord text
  | _ => True

/-- A token that may follow another: after a word or a number it has to be a mark. -/
def Follows (t next : Token) : Prop :=
  t.isRun → ∃ m, next = mark m

/-- Proper tokens, each of which may follow the one before it. -/
def Legible (ts : List Token) : Prop :=
  (∀ t ∈ ts, t.Proper) ∧ ts.IsChain Follows

theorem follows_mark (t : Token) (m : Mark) :
  Follows t (mark m)
  := fun _ => ⟨m, rfl⟩

@[simp]
theorem legible_nil :
  Legible []
  := by
  simp [Legible]

@[simp]
theorem legible_mark_cons (m : Mark) (ts : List Token) :
  Legible (mark m :: ts) ↔ Legible ts
  := by
  simp [Legible, List.isChain_cons, Proper, Follows, isRun]

@[simp]
theorem legible_singleton (t : Token) :
  Legible [t] ↔ t.Proper
  := by
  simp [Legible]

@[simp]
theorem proper_word (text : String) :
  (word text).Proper ↔ isWord text
  := Iff.rfl

@[simp]
theorem legible_word_mark_cons (text : String) (m : Mark) (ts : List Token) :
  Legible (word text :: mark m :: ts) ↔ isWord text ∧ Legible ts
  := by
  rw [← legible_mark_cons m ts]
  simp [Legible, Proper, follows_mark, and_assoc]

@[simp]
theorem legible_append_mark_cons (ts : List Token) (m : Mark) (ts' : List Token) :
  Legible (ts ++ mark m :: ts') ↔ Legible ts ∧ Legible ts'
  := by
  rw [← legible_mark_cons m ts']
  simp only [Legible, List.forall_mem_append, List.isChain_append]
  constructor
  · rintro ⟨⟨proper, proper'⟩, chain, chain', -⟩
    exact ⟨⟨proper, chain⟩, proper', chain'⟩
  · rintro ⟨⟨proper, chain⟩, proper', chain'⟩
    refine ⟨⟨proper, proper'⟩, chain, chain', ?_⟩
    rintro t - next ⟨⟩
    apply follows_mark

theorem Legible.tail {t : Token} {ts : List Token} (legible : Legible (t :: ts)) :
  Legible ts
  := ⟨fun t mem => legible.1 t (List.mem_cons_of_mem _ mem), legible.2.tail⟩

/-! ## Telling tokens apart -/

/-- A character that a word or a number goes on with. -/
def isRunChar (c : Char) : Bool :=
  isWordChar c || c == '-'

/-- A mark starts with neither a quote nor a character that a word or a number goes on with. -/
theorem start_mark (m : Mark) :
  isRunChar m.start = false ∧ m.start ≠ '\x27'
  := by
  cases m <;> decide

theorem isRunChar_of_isDigit {c : Char} (h : c.isDigit) :
  isRunChar c
  := by
  simp [isRunChar, isWordChar, Char.isAlphanum, h]

theorem isWord_iff (text : String) :
  isWord text ↔ ∃ c cs, text.toList = c :: cs ∧ ¬ c.isDigit ∧ ∀ d ∈ c :: cs, isWordChar d
  := by
  rw [isWord]
  cases text.toList <;> simp

theorem exists_first_digit (n : Nat) :
  ∃ c cs, Nat.toDigits 10 n = c :: cs ∧ c.isDigit
  := by
  have digit (c : Char) : c ∈ Nat.toDigits 10 n → c.isDigit :=
    Nat.isDigit_of_mem_toDigits (by decide) (by decide)
  cases digits : Nat.toDigits 10 n with
  | nil => cases Nat.toDigits_ne_nil digits
  | cons c cs =>
      use c, cs, rfl
      apply digit
      rw [digits]
      apply List.mem_cons_self

theorem toDigits_inj {m n : Nat} (h : Nat.toDigits 10 m = Nat.toDigits 10 n) :
  m = n
  := by
  rw [← Nat.ofDigitChars_ten_toDigits (n := m), h, Nat.ofDigitChars_ten_toDigits]

theorem toList_toString_ofNat (n : Nat) :
  (toString (Int.ofNat n)).toList = Nat.toDigits 10 n
  := Nat.toList_repr

theorem toList_toString_negSucc (n : Nat) :
  (toString (Int.negSucc n)).toList = '-' :: Nat.toDigits 10 (n + 1)
  := by
  show ("-" ++ Nat.repr (n + 1)).toList = _
  simp

/-- A number starts with a digit or a sign. -/
theorem exists_first_number (value : Int) :
  ∃ c cs, (toString value).toList = c :: cs ∧ (c.isDigit ∨ c = '-')
  := by
  cases value with
  | ofNat n =>
      obtain ⟨c, cs, digits, digit⟩ := exists_first_digit n
      exact ⟨c, cs, by rw [toList_toString_ofNat, digits], .inl digit⟩
  | negSucc n => exact ⟨_, _, toList_toString_negSucc n, .inr rfl⟩

theorem toString_int_inj {m n : Int} (h : (toString m).toList = (toString n).toList) :
  m = n
  := by
  have apart (k l : Nat) : Nat.toDigits 10 k ≠ '-' :: Nat.toDigits 10 l := by
    obtain ⟨c, cs, digits, digit⟩ := exists_first_digit k
    rw [digits]
    rintro ⟨⟩
    cases digit
  cases m with
  | ofNat k =>
      rw [toList_toString_ofNat] at h
      cases n with
      | ofNat l =>
          rw [toList_toString_ofNat] at h
          rw [toDigits_inj h]
      | negSucc l =>
          rw [toList_toString_negSucc] at h
          cases apart k (l + 1) h
  | negSucc k =>
      rw [toList_toString_negSucc] at h
      cases n with
      | ofNat l =>
          rw [toList_toString_ofNat] at h
          cases apart l (k + 1) h.symm
      | negSucc l =>
          rw [toList_toString_negSucc] at h
          rw [Nat.succ.inj (toDigits_inj (List.cons.inj h).2)]

/-- The first character of a token tells whether it is a word or a number. -/
theorem exists_first {t : Token} (proper : t.Proper) :
  ∃ c cs, t.text.toList = c :: cs ∧ isRunChar c = t.isRun
  := by
  cases t with
  | word text =>
      obtain ⟨c, cs, spelled, -, chars⟩ := (isWord_iff text).mp proper
      use c, cs, spelled
      rw [isRunChar, chars c List.mem_cons_self]
      rfl
  | number value =>
      obtain ⟨c, cs, spelled, digit | rfl⟩ := exists_first_number value
      · exact ⟨c, cs, spelled, isRunChar_of_isDigit digit⟩
      · exact ⟨_, cs, spelled, rfl⟩
  | quoted value => exact ⟨_, _, Text.toList_quoted value, rfl⟩
  | mark m =>
      obtain ⟨cs, spelled⟩ := m.toList_text
      exact ⟨m.start, cs, spelled, (start_mark m).1⟩

/-- A word or a number is made of characters that it goes on with. -/
theorem forall_isRunChar {t : Token} (proper : t.Proper) (run : t.isRun) :
  ∀ c ∈ t.text.toList, isRunChar c
  := by
  have digits (n : Nat) : ∀ c ∈ Nat.toDigits 10 n, isRunChar c := by
    intro c digit
    apply isRunChar_of_isDigit
    apply Nat.isDigit_of_mem_toDigits (by decide) (by decide) digit
  cases t with
  | word spelled =>
      obtain ⟨c, cs, split, -, chars⟩ := (isWord_iff spelled).mp proper
      intro d mem
      rw [text, split] at mem
      rw [isRunChar, chars d mem]
      rfl
  | number value =>
      cases value with
      | ofNat n =>
          rw [text, toList_toString_ofNat]
          apply digits n
      | negSucc n =>
          rw [text, toList_toString_negSucc, List.forall_mem_cons]
          use rfl
          apply digits (n + 1)
  | quoted value => cases run
  | mark m => cases run

/-- What goes on with the characters that a run is made of is the run itself. -/
theorem run_append_inj {p : Char → Bool} {run run' rest rest' : List Char}
    (all : ∀ c ∈ run, p c) (all' : ∀ c ∈ run', p c) (ends : ∀ c ∈ rest.head?, p c = false)
    (ends' : ∀ c ∈ rest'.head?, p c = false) (h : run ++ rest = run' ++ rest') :
  run = run' ∧ rest = rest'
  := by
  have taken {run rest : List Char} (all : ∀ c ∈ run, p c) (ends : ∀ c ∈ rest.head?, p c = false) :
      (run ++ rest).takeWhile p = run := by
    rw [List.takeWhile_append_of_pos all]
    cases rest with
    | nil => simp
    | cons c rest => simp [ends c rfl]
  have same : run = run' := by
    rw [← taken all ends, h, taken all' ends']
  subst same
  exact ⟨rfl, List.append_cancel_left h⟩

/-- What follows a word or a number does not start with a character that it goes on with. -/
theorem ends_of_legible {t : Token} {ts : List Token} (legible : Legible (t :: ts))
    (run : t.isRun) :
  ∀ c ∈ (written ts).toList.head?, isRunChar c = false
  := by
  cases ts with
  | nil => simp
  | cons next ts =>
      obtain ⟨m, rfl⟩ := (List.isChain_cons_cons.mp legible.2).1 run
      obtain ⟨c, cs, first, mark⟩ := exists_first (t := mark m) trivial
      rw [written_cons, String.toList_append, first]
      rintro d ⟨⟩
      apply mark

/-- Words and numbers are told apart by their texts. -/
theorem eq_of_runs {t t' : Token} (proper : t.Proper) (proper' : t'.Proper) (run : t.isRun)
    (run' : t'.isRun) (h : t.text.toList = t'.text.toList) :
  t = t'
  := by
  have apart {spelled : String} (proper : isWord spelled) (value : Int) :
      spelled.toList ≠ (toString value).toList := by
    obtain ⟨c, cs, split, digit, chars⟩ := (isWord_iff spelled).mp proper
    obtain ⟨d, ds, split', start⟩ := exists_first_number value
    rw [split, split']
    rintro ⟨⟩
    obtain start | rfl := start
    · apply digit start
    · cases chars '-' List.mem_cons_self
  cases t with
  | word spelled =>
      cases t' with
      | word spelled' => exact congrArg word (String.toList_inj.mp h)
      | number value' => cases apart proper value' h
      | _ => cases run'
  | number value =>
      cases t' with
      | word spelled' => cases apart proper' value h.symm
      | number value' => rw [toString_int_inj h]
      | _ => cases run'
  | _ => cases run

/-- A mark is told from any other by its text and what follows. -/
theorem mark_append_inj {m m' : Mark} {rest rest' : List Char}
    (h : m.text.toList ++ rest = m'.text.toList ++ rest') :
  m = m' ∧ rest = rest'
  := by
  have same : m = m' := by
    obtain ⟨cs, spelled⟩ := m.toList_text
    obtain ⟨cs', spelled'⟩ := m'.toList_text
    rw [spelled, spelled'] at h
    apply Mark.start_inj (List.cons.inj h).1
  subst same
  exact ⟨rfl, List.append_cancel_left h⟩

/-- A character is told by its written form and what follows. -/
theorem escapeChar_append_inj {c c' : Char} {rest rest' : List Char}
    (h : Text.escapeChar c ++ rest = Text.escapeChar c' ++ rest') :
  c = c' ∧ rest = rest'
  := by
  rw [Text.escapeChar, Text.escapeChar] at h
  split at h
  · split at h
    · exact ⟨(List.cons.inj (List.cons.inj h).2).1, (List.cons.inj (List.cons.inj h).2).2⟩
    · next plain =>
      obtain rfl := (List.cons.inj h).1
      cases plain (.inl rfl)
  · next plain =>
    split at h
    · obtain rfl := (List.cons.inj h).1
      cases plain (.inl rfl)
    · exact List.cons.inj h

/-- The written form of a character is not a quote. -/
theorem quote_cons_ne_escapeChar_append (c : Char) (rest rest' : List Char) :
  '\x27' :: rest ≠ Text.escapeChar c ++ rest'
  := by
  rw [Text.escapeChar]
  split
  · rintro ⟨⟩
  · next plain =>
    intro h
    obtain rfl := (List.cons.inj h).1
    apply plain (.inr rfl)

/-- A quoted text ends at the first quote that is not escaped. -/
theorem escapeChars_append_inj {cs cs' : List Char} {rest rest' : List Char}
    (h : Text.escapeChars cs ++ '\x27' :: rest = Text.escapeChars cs' ++ '\x27' :: rest') :
  cs = cs' ∧ rest = rest'
  := by
  induction cs generalizing cs' with
  | nil =>
      cases cs' with
      | nil => exact ⟨rfl, (List.cons.inj h).2⟩
      | cons c' cs' =>
          rw [Text.escapeChars_cons, List.append_assoc] at h
          cases quote_cons_ne_escapeChar_append _ _ _ h
  | cons c cs ih =>
      rw [Text.escapeChars_cons, List.append_assoc] at h
      cases cs' with
      | nil => cases quote_cons_ne_escapeChar_append _ _ _ h.symm
      | cons c' cs' =>
          rw [Text.escapeChars_cons, List.append_assoc] at h
          obtain ⟨rfl, later⟩ := escapeChar_append_inj h
          obtain ⟨rfl, same⟩ := ih later
          exact ⟨rfl, same⟩

/-- A quoted text is told by its written form and what follows. -/
theorem quoted_append_inj {value value' : String} {rest rest' : List Char}
    (h : (Text.quoted value).toList ++ rest = (Text.quoted value').toList ++ rest') :
  value = value' ∧ rest = rest'
  := by
  rw [Text.toList_quoted, Text.toList_quoted] at h
  simp only [List.cons_append, List.append_assoc, List.nil_append] at h
  obtain ⟨same, h⟩ := escapeChars_append_inj (List.cons.inj h).2
  exact ⟨String.toList_inj.mp same, h⟩

/-- What starts with a mark does not start with a quoted text. -/
theorem quoted_append_ne_mark_append (value : String) (m : Mark) (rest rest' : List Char) :
  (Text.quoted value).toList ++ rest ≠ m.text.toList ++ rest'
  := by
  obtain ⟨cs, spelled⟩ := m.toList_text
  rw [Text.toList_quoted, spelled]
  intro h
  apply (start_mark m).2 (List.cons.inj h).1.symm

/-- The first of some legible tokens is told by the text of them. -/
theorem first_inj {t t' : Token} {ts ts' : List Token} (legible : Legible (t :: ts))
    (legible' : Legible (t' :: ts')) (h : written (t :: ts) = written (t' :: ts')) :
  t = t' ∧ written ts = written ts'
  := by
  replace h := congrArg String.toList h
  rw [written_cons, written_cons, String.toList_append, String.toList_append] at h
  have proper := legible.1 t List.mem_cons_self
  have proper' := legible'.1 t' List.mem_cons_self
  have sameRun : t.isRun = t'.isRun := by
    obtain ⟨c, cs, first, run⟩ := exists_first proper
    obtain ⟨c', cs', first', run'⟩ := exists_first proper'
    rw [first, first'] at h
    rw [← run, ← run', (List.cons.inj h).1]
  by_cases run : t.isRun
  · have run' := sameRun ▸ run
    obtain ⟨same, rest⟩ := run_append_inj (forall_isRunChar proper run)
      (forall_isRunChar proper' run') (ends_of_legible legible run)
      (ends_of_legible legible' run') h
    exact ⟨eq_of_runs proper proper' run run' same, String.toList_inj.mp rest⟩
  · have run' := sameRun ▸ run
    cases t with
    | quoted value =>
        cases t' with
        | quoted value' =>
            obtain ⟨rfl, rest⟩ := quoted_append_inj h
            exact ⟨rfl, String.toList_inj.mp rest⟩
        | mark m' => cases quoted_append_ne_mark_append _ _ _ _ h
        | _ => cases run' rfl
    | mark m =>
        cases t' with
        | quoted value' => cases quoted_append_ne_mark_append _ _ _ _ h.symm
        | mark m' =>
            obtain ⟨rfl, rest⟩ := mark_append_inj h
            exact ⟨rfl, String.toList_inj.mp rest⟩
        | _ => cases run' rfl
    | _ => cases run rfl

/-- Legible tokens are told by their text. -/
theorem eq_of_written_eq {ts ts' : List Token} (legible : Legible ts) (legible' : Legible ts')
    (h : written ts = written ts') :
  ts = ts'
  := by
  have written_ne {t : Token} (proper : t.Proper) (ts : List Token) : written (t :: ts) ≠ "" := by
    obtain ⟨c, cs, first, -⟩ := exists_first proper
    rw [written_cons]
    intro h
    have none := congrArg String.toList h
    rw [String.toList_append, first] at none
    cases none
  induction ts generalizing ts' with
  | nil =>
      cases ts' with
      | nil => rfl
      | cons t' ts' => cases written_ne (legible'.1 t' List.mem_cons_self) ts' h.symm
  | cons t ts ih =>
      cases ts' with
      | nil => cases written_ne (legible.1 t List.mem_cons_self) ts h
      | cons t' ts' =>
          obtain ⟨rfl, rest⟩ := first_inj legible legible' h
          rw [ih legible.tail legible'.tail rest]

end Token

end ContractBindings
