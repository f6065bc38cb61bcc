import Assay.Score.Overlap
import Mathlib.Algebra.Order.Field.Basic
import Mathlib.Tactic.FieldSimp
import Mathlib.Tactic.Linarith
import Mathlib.Tactic.Positivity
import Mathlib.Tactic.Ring

/-!
# Scores as portions

A score is made of three counts: the common items, the predicted ones and the actual ones. In exact
arithmetic precision is the portion of the common items among the predicted ones, recall that among
the actual ones, and their harmonic mean is the portion of the common items, counted on both sides,
among all items of both sides.
-/

namespace Assay

/-! ## Portions -/

/-- The portion that a part is of a whole; of nothing it is zero. -/
def portion (part whole : Nat) : Rat :=
  if whole = 0 then 0 else (part : Rat) / whole

/-- What is divided by zero is zero, so a portion is a quotient in any case. -/
theorem portion_eq_div (part whole : Nat) : portion part whole = (part : Rat) / whole := by
  unfold portion
  split
  · next none => simp [none]
  · rfl

theorem portion_zero (whole : Nat) : portion 0 whole = 0 := by
  simp [portion_eq_div]

theorem portion_self {whole : Nat} (some : 0 < whole) : portion whole whole = 1 := by
  rw [portion_eq_div]
  exact div_self (Nat.cast_ne_zero.mpr some.ne')

theorem portion_pos {part whole : Nat} (some : 0 < part) (le : part ≤ whole) :
    0 < portion part whole := by
  rw [portion_eq_div]
  exact div_pos (Nat.cast_pos.mpr some) (Nat.cast_pos.mpr (some.trans_le le))

theorem portion_nonneg (part whole : Nat) : 0 ≤ portion part whole := by
  rw [portion_eq_div]
  positivity

theorem portion_le_one {part whole : Nat} (le : part ≤ whole) : portion part whole ≤ 1 := by
  rw [portion_eq_div]
  exact div_le_one_of_le₀ (Nat.cast_le.mpr le) (Nat.cast_nonneg whole)

/-- A portion is one exactly if it is the whole and there is a whole. -/
theorem portion_eq_one_iff {part whole : Nat} :
    portion part whole = 1 ↔ whole ≠ 0 ∧ part = whole := by
  rw [portion_eq_div]
  by_cases none : whole = 0
  · simp [none]
  · have positive : (whole : Rat) ≠ 0 := by simpa using none
    rw [div_eq_one_iff_eq positive, Nat.cast_inj]
    simp [none]

/-- Portions compare by cross multiplication. -/
theorem portion_le_iff {part whole part' whole' : Nat} (some : 0 < whole) (some' : 0 < whole') :
    portion part whole ≤ portion part' whole' ↔ part * whole' ≤ part' * whole := by
  rw [portion_eq_div, portion_eq_div,
    div_le_div_iff₀ (Nat.cast_pos.mpr some) (Nat.cast_pos.mpr some')]
  norm_cast

theorem portion_lt_iff {part whole part' whole' : Nat} (some : 0 < whole) (some' : 0 < whole') :
    portion part whole < portion part' whole' ↔ part * whole' < part' * whole := by
  rw [portion_eq_div, portion_eq_div,
    div_lt_div_iff₀ (Nat.cast_pos.mpr some) (Nat.cast_pos.mpr some')]
  norm_cast

/-! ## Three portions -/

namespace Prf

/-- Precision and recall are portions of the two sides. -/
theorem ofCounts_rat (correct predicted actual : Nat) :
    (ofCounts correct predicted actual : Prf Rat).precision = portion correct predicted ∧
      (ofCounts correct predicted actual : Prf Rat).recalled = portion correct actual :=
  ⟨rfl, rfl⟩

/-- The harmonic mean of one and one is one. -/
theorem f1_eq_one {correct predicted actual : Nat}
    (precise : (ofCounts correct predicted actual : Prf Rat).precision = 1)
    (complete : (ofCounts correct predicted actual : Prf Rat).recalled = 1) :
    (ofCounts correct predicted actual : Prf Rat).f1 = 1 := by
  have mean : ∀ p r : Rat, p = 1 → r = 1 →
      (if 0 < p + r then ((2 : Nat) : Rat) * p * r / (p + r) else 0) = 1 := by
    rintro p r rfl rfl
    norm_num
  exact mean _ _ precise complete

/-- Precision, recall and their harmonic mean as portions: of the common items among the predicted
ones, among the actual ones, and on both sides among the items of both. -/
def portions (common predicted actual : Nat) : Prf Rat where
  precision := portion common predicted
  recalled := portion common actual
  f1 := portion (2 * common) (predicted + actual)

variable {common predicted actual : Nat}

/-- The harmonic mean of the portions of two wholes is the portion that twice the part is of both
wholes together. -/
theorem harmonic_portion (le : common ≤ predicted) (le' : common ≤ actual) :
    (if 0 < portion common predicted + portion common actual then
        ((2 : Nat) : Rat) * portion common predicted * portion common actual /
          (portion common predicted + portion common actual)
      else 0) = portion (2 * common) (predicted + actual) := by
  rcases Nat.eq_zero_or_pos common with rfl | some
  · simp [portion_zero]
  · have positive : 0 < portion common predicted + portion common actual :=
      add_pos (portion_pos some le) (portion_pos some le')
    rw [if_pos positive]
    -- with a common item no denominator is zero
    have common_ne : (common : Rat) ≠ 0 := Nat.cast_ne_zero.mpr some.ne'
    have predicted_ne : (predicted : Rat) ≠ 0 := Nat.cast_ne_zero.mpr (some.trans_le le).ne'
    have actual_ne : (actual : Rat) ≠ 0 := Nat.cast_ne_zero.mpr (some.trans_le le').ne'
    have both_ne : (predicted : Rat) + actual ≠ 0 := by
      have whole : predicted + actual ≠ 0 := by omega
      exact_mod_cast whole
    simp only [portion_eq_div]
    push_cast
    field_simp
    ring

/-- A score is made of portions when no more items are common than either side has. -/
theorem ofCounts_eq_portions (le : common ≤ predicted) (le' : common ≤ actual) :
    ofCounts common predicted actual = portions common predicted actual := by
  rw [portions, ← harmonic_portion le le']
  rfl

/-- Either there is a common item and all three numbers are positive, or all of them are zero. -/
theorem portions_alike (le : common ≤ predicted) (le' : common ≤ actual) :
    let score := portions common predicted actual
    (0 < score.precision ∧ 0 < score.recalled ∧ 0 < score.f1) ∨
      (score.precision = 0 ∧ score.recalled = 0 ∧ score.f1 = 0) := by
  rcases Nat.eq_zero_or_pos common with rfl | some
  · exact .inr ⟨portion_zero _, portion_zero _, portion_zero _⟩
  · exact .inl ⟨portion_pos some le, portion_pos some le',
      portion_pos (Nat.mul_pos Nat.two_pos some) (by omega)⟩

/-- The harmonic mean lies between precision and recall. -/
theorem portions_between (le : common ≤ predicted) (le' : common ≤ actual) :
    let score := portions common predicted actual
    min score.precision score.recalled ≤ score.f1 ∧
      score.f1 ≤ max score.precision score.recalled := by
  intro score
  rcases Nat.eq_zero_or_pos common with rfl | some
  · simp [score, portions, portion_zero]
  · have predicted_pos : 0 < predicted := some.trans_le le
    have actual_pos : 0 < actual := some.trans_le le'
    have both_pos : 0 < predicted + actual := by omega
    -- the portion of the larger side is the smaller one
    rcases Nat.le_total actual predicted with fewer | fewer
    · constructor
      · refine min_le_of_left_le ((portion_le_iff predicted_pos both_pos).mpr ?_)
        nlinarith
      · refine le_max_of_le_right ((portion_le_iff both_pos actual_pos).mpr ?_)
        nlinarith
    · constructor
      · refine min_le_of_right_le ((portion_le_iff actual_pos both_pos).mpr ?_)
        nlinarith
      · refine le_max_of_le_left ((portion_le_iff both_pos predicted_pos).mpr ?_)
        nlinarith

theorem f1_portions_le_one (le : common ≤ predicted) (le' : common ≤ actual) :
    (portions common predicted actual).f1 ≤ 1 :=
  portion_le_one (by omega)

/-- The harmonic mean is one exactly if all items are common and there are some. -/
theorem f1_portions_eq_one_iff (le : common ≤ predicted) (le' : common ≤ actual) :
    (portions common predicted actual).f1 = 1 ↔
      0 < common ∧ common = predicted ∧ common = actual := by
  show portion (2 * common) (predicted + actual) = 1 ↔ _
  rw [portion_eq_one_iff]
  omega

end Prf

end Assay
