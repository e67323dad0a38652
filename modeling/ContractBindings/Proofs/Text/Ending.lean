import Mathlib.Data.List.Nodup
import Mathlib.Data.List.Pairwise
import Mathlib.Data.String.Basic

/-!
# Endings

Texts that are made by putting an ending after a stem.  Two endings are apart when neither
ends in the other; then no text has both, whatever the stems are.  So when texts are made from
several lists of stems, each with an ending of its own, they are pairwise distinct if and only
if the stems of each list are.

Two words part when neither begins with the other; then no text begins with both.
-/

namespace ContractBindings.Text

/-- Neither of two endings ends in the other. -/
def Apart (x y : String) : Prop :=
  ¬ x.toList <:+ y.toList ∧ ¬ y.toList <:+ x.toList

instance (x y : String) : Decidable (Apart x y) :=
  inferInstanceAs (Decidable (¬ x.toList <:+ y.toList ∧ ¬ y.toList <:+ x.toList))

instance : Std.Symm Apart where
  symm _ _ h := ⟨h.2, h.1⟩

/-- A text with an ending is another one than without it. -/
theorem ne_append {ending : String} (h : ending ≠ "") (stem : String) :
  stem ≠ stem ++ ending
  := by
  intro same
  apply h (String.append_eq_left_iff.mp same.symm)

/-- Stems with endings that are apart make different texts. -/
theorem append_ne_append {x y : String} (h : Apart x y) (s t : String) :
  s ++ x ≠ t ++ y
  := by
  intro same
  have hx : x.toList <:+ (t ++ y).toList := by
    rw [← same, String.toList_append]
    apply List.suffix_append
  have hy : y.toList <:+ (t ++ y).toList := by
    rw [String.toList_append]
    apply List.suffix_append
  obtain sub | sub := List.suffix_or_suffix_of_suffix hx hy
  · apply h.1 sub
  · apply h.2 sub

/-- The texts that a list of stems makes with one ending. -/
def withEnding (ending : String) (stems : List String) : List String :=
  stems.map (· ++ ending)

theorem nodup_withEnding (ending : String) (stems : List String) :
  (withEnding ending stems).Nodup ↔ stems.Nodup
  := by
  apply List.nodup_map_iff
  intro s t h
  apply (String.append_left_inj ending).mp h

/-- Lists of stems, each with an ending of its own, make pairwise distinct texts if and only
if the stems of each list are pairwise distinct. -/
theorem nodup_flatMap_withEnding {groups : List (String × List String)}
    (h : groups.Pairwise fun g g' => Apart g.1 g'.1) :
  (groups.flatMap fun g => withEnding g.1 g.2).Nodup ↔ ∀ g ∈ groups, g.2.Nodup
  := by
  rw [List.nodup_flatMap]
  simp only [nodup_withEnding, and_iff_left_iff_imp]
  intro _
  apply h.imp
  intro g g' apart text hg hg'
  obtain ⟨s, -, rfl⟩ := List.mem_map.mp hg
  obtain ⟨t, -, same⟩ := List.mem_map.mp hg'
  apply append_ne_append apart s t same.symm

/-- Pairwise distinct stems make pairwise distinct texts when all of them are followed by each of
some endings. -/
theorem nodup_flatMap_append {endings : List String} (h : endings.Pairwise Apart)
    {stems : List String} (distinct : stems.Nodup) :
  (stems.flatMap fun stem => endings.map (stem ++ ·)).Nodup
  := by
  have different : endings.Nodup := by
    apply h.imp
    rintro x _ apart rfl
    apply apart.1 (List.suffix_refl _)
  rw [List.nodup_flatMap]
  constructor
  · intro stem _
    apply different.map
    intro x y same
    apply (String.append_right_inj stem).mp same
  · apply distinct.imp
    intro s t other text left right
    obtain ⟨x, among, rfl⟩ := List.mem_map.mp left
    obtain ⟨y, among', same⟩ := List.mem_map.mp right
    by_cases equal : x = y
    · obtain rfl := equal
      apply other ((String.append_left_inj x).mp same).symm
    · apply append_ne_append (h.forall among among' equal) s t same.symm

/-! ## Beginnings -/

/-- Neither of two words begins with the other. -/
def Part (x y : String) : Prop :=
  ¬ x.toList <+: y.toList ∧ ¬ y.toList <+: x.toList

instance (x y : String) : Decidable (Part x y) :=
  inferInstanceAs (Decidable (¬ x.toList <+: y.toList ∧ ¬ y.toList <+: x.toList))

/-- Texts that go on after words that part are different. -/
theorem ne_of_part {x y : String} (h : Part x y) (s t : String) :
  x ++ s ≠ y ++ t
  := by
  intro same
  have hx : x.toList <+: (y ++ t).toList := by
    rw [← same, String.toList_append]
    apply List.prefix_append
  have hy : y.toList <+: (y ++ t).toList := by
    rw [String.toList_append]
    apply List.prefix_append
  obtain sub | sub := List.prefix_or_prefix_of_prefix hx hy
  · apply h.1 sub
  · apply h.2 sub

end ContractBindings.Text
