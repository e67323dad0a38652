import ContractBindings.Proofs.Text.Ending
import ContractBindings.Text.Joined
import Mathlib.Tactic.Common

/-!
# Texts that tell

Two texts tell a fact when they are the same if it holds, and part if it does not.  Lists of texts
do so when the first two texts that differ part.  Texts that are put together from such texts in
the same way tell whether all of the facts hold, since a text that has parted from another one
does not come back to it.
-/

namespace ContractBindings.Text

/-! ## Texts that part -/

/-- Words that part do so whatever follows them. -/
theorem Part.append {x y : String} (h : Part x y) (s t : String) :
  Part (x ++ s) (y ++ t)
  := by
  have within (x y : String) : x.toList <+: (x ++ y).toList := by
    rw [String.toList_append]
    apply List.prefix_append
  constructor
  · intro sub
    obtain shorter | shorter :=
      List.prefix_or_prefix_of_prefix ((within x s).trans sub) (within y t)
    · apply h.1 shorter
    · apply h.2 shorter
  · intro sub
    obtain shorter | shorter :=
      List.prefix_or_prefix_of_prefix (within x s) ((within y t).trans sub)
    · apply h.1 shorter
    · apply h.2 shorter

/-- Words that part do so after the same word. -/
theorem Part.prepend {x y : String} (h : Part x y) (s : String) :
  Part (s ++ x) (s ++ y)
  := by
  simpa only [Part, String.toList_append, List.prefix_append_right_inj] using h

theorem Part.ne {x y : String} (h : Part x y) :
  x ≠ y
  := by
  rintro rfl
  apply h.1 (List.prefix_refl _)

/-- Two lists of texts are the same up to texts that part. -/
inductive PartIn : List String → List String → Prop where
  | head {x y : String} (h : Part x y) (xs ys : List String) : PartIn (x :: xs) (y :: ys)
  | tail (x : String) {xs ys : List String} (h : PartIn xs ys) : PartIn (x :: xs) (x :: ys)

namespace PartIn

variable {xs ys : List String}

theorem append (h : PartIn xs ys) (ss ts : List String) :
  PartIn (xs ++ ss) (ys ++ ts)
  := by
  induction h with
  | head h => apply head h
  | tail x _ ih => apply tail x ih

theorem prepend (h : PartIn xs ys) (ss : List String) :
  PartIn (ss ++ xs) (ss ++ ys)
  := by
  induction ss with
  | nil => apply h
  | cons s ss ih => apply tail s ih

theorem ne (h : PartIn xs ys) :
  xs ≠ ys
  := by
  induction h with
  | head h =>
      intro same
      apply h.ne (List.cons.inj same).1
  | tail x _ ih =>
      intro same
      apply ih (List.cons.inj same).2

/-- Lists of texts that part do so when they are put together. -/
theorem intercalate (h : PartIn xs ys) (separator : String) :
  Part (separator.intercalate xs) (separator.intercalate ys)
  := by
  have goesOn (x : String) (xs : List String) :
      ∃ rest, separator.intercalate (x :: xs) = x ++ rest := by
    cases xs with
    | nil => exact ⟨"", by simp⟩
    | cons next xs => exact ⟨_, by rw [String.intercalate_cons_cons, String.append_assoc]⟩
  induction h with
  | @head x y h xs ys =>
      obtain ⟨s, there⟩ := goesOn x xs
      obtain ⟨t, there'⟩ := goesOn y ys
      rw [there, there']
      apply h.append
  | tail x h ih =>
      -- something follows in both lists, since they part there
      cases h <;> rw [String.intercalate_cons_cons, String.intercalate_cons_cons] <;>
        apply ih.prepend

end PartIn

/-! ## Texts that tell a fact -/

/-- Two texts are the same if a fact holds, and part otherwise. -/
def Tells (fact : Prop) (x y : String) : Prop :=
  fact ∧ x = y ∨ ¬ fact ∧ Part x y

/-- Two lists of texts are the same if a fact holds, and part otherwise. -/
def TellIn (fact : Prop) (xs ys : List String) : Prop :=
  fact ∧ xs = ys ∨ ¬ fact ∧ PartIn xs ys

section

variable {p q : Prop} {x y s t : String} {xs ys ss ts : List String}

namespace Tells

theorem same (h : p) (x : String) :
  Tells p x x
  := .inl ⟨h, rfl⟩

theorem of_iff (h : Tells p x y) (alike : p ↔ q) :
  Tells q x y
  := propext alike ▸ h

/-- Texts one after the other tell whether both facts hold. -/
theorem append (hx : Tells p x y) (hs : Tells q s t) :
  Tells (p ∧ q) (x ++ s) (y ++ t)
  := by
  obtain ⟨fact, rfl⟩ | ⟨fails, apart⟩ := hx
  · obtain ⟨fact', rfl⟩ | ⟨fails, apart⟩ := hs
    · apply same ⟨fact, fact'⟩
    · apply Or.inr ⟨fun both => fails both.2, apart.prepend x⟩
  · apply Or.inr ⟨fun both => fails both.1, apart.append s t⟩

/-- The same text may stand before texts that tell a fact. -/
theorem after (h : Tells p x y) (s : String) :
  Tells p (s ++ x) (s ++ y)
  := (append (same trivial s) h).of_iff (Iff.of_eq (true_and p))

/-- The same text may stand after texts that tell a fact. -/
theorem before (h : Tells p x y) (s : String) :
  Tells p (x ++ s) (y ++ s)
  := (append h (same trivial s)).of_iff (Iff.of_eq (and_true p))

end Tells

namespace TellIn

theorem same (h : p) (xs : List String) :
  TellIn p xs xs
  := .inl ⟨h, rfl⟩

theorem of_iff (h : TellIn p xs ys) (alike : p ↔ q) :
  TellIn q xs ys
  := propext alike ▸ h

theorem append (hx : TellIn p xs ys) (hs : TellIn q ss ts) :
  TellIn (p ∧ q) (xs ++ ss) (ys ++ ts)
  := by
  obtain ⟨fact, rfl⟩ | ⟨fails, apart⟩ := hx
  · obtain ⟨fact', rfl⟩ | ⟨fails, apart⟩ := hs
    · apply same ⟨fact, fact'⟩
    · apply Or.inr ⟨fun both => fails both.2, apart.prepend xs⟩
  · apply Or.inr ⟨fun both => fails both.1, apart.append ss ts⟩

/-- The same texts may stand before texts that tell a fact. -/
theorem after (h : TellIn p xs ys) (ss : List String) :
  TellIn p (ss ++ xs) (ss ++ ys)
  := (append (same trivial ss) h).of_iff (Iff.of_eq (true_and p))

/-- The same texts may stand after texts that tell a fact. -/
theorem before (h : TellIn p xs ys) (ss : List String) :
  TellIn p (xs ++ ss) (ys ++ ss)
  := (append h (same trivial ss)).of_iff (Iff.of_eq (and_true p))

theorem cons (hx : Tells p x y) (hs : TellIn q xs ys) :
  TellIn (p ∧ q) (x :: xs) (y :: ys)
  := by
  obtain ⟨fact, rfl⟩ | ⟨fails, apart⟩ := hx
  · obtain ⟨fact', rfl⟩ | ⟨fails, apart⟩ := hs
    · apply same ⟨fact, fact'⟩
    · apply Or.inr ⟨fun both => fails both.2, .tail x apart⟩
  · apply Or.inr ⟨fun both => fails both.1, .head apart xs ys⟩

/-- Lists of texts are the same precisely if the fact holds that they tell. -/
theorem eq_iff (h : TellIn p xs ys) :
  xs = ys ↔ p
  := by
  obtain ⟨fact, same⟩ | ⟨fails, apart⟩ := h
  · exact iff_of_true same fact
  · exact iff_of_false apart.ne fails

/-- Texts that tell a fact do so when they are put together. -/
theorem intercalate (h : TellIn p xs ys) (separator : String) :
  Tells p (separator.intercalate xs) (separator.intercalate ys)
  := by
  obtain ⟨fact, rfl⟩ | ⟨fails, apart⟩ := h
  · apply Tells.same fact
  · apply Or.inr ⟨fails, apart.intercalate separator⟩

end TellIn

end

end ContractBindings.Text
