import Mathlib.Algebra.BigOperators.Group.List.Basic
import Mathlib.Algebra.Order.Field.Basic
import Mathlib.Tactic.FinCases
import Mathlib.Tactic.Linarith
import Mathlib.Tactic.Positivity
import Mathlib.Tactic.Ring
import Assay.Proofs.Score.Measure
import Assay.Proofs.Score.Perfect
import Assay.Score.Average

/-!
# The range of scores and of their means

In exact arithmetic the three numbers of a comparison are shares: they lie between zero and one,
whatever the two answers are. The mean of scores has the same three metrics, each the mean of that
number, and so it is a share as well. As every score has all three metrics, no average of scores
warns that one is missing.
-/

namespace Assay

/-! ## Shares -/

/-- A number from zero to one. -/
def IsShare (x : Rat) : Prop :=
  0 ≤ x ∧ x ≤ 1

/-- A portion is a share. -/
theorem isShare_portion {part whole : Nat} (le : part ≤ whole) : IsShare (portion part whole) :=
  ⟨portion_nonneg part whole, portion_le_one le⟩

/-- The mean of shares is a share. -/
theorem isShare_mean {xs : List Rat} (all : ∀ x ∈ xs, IsShare x) :
    IsShare (xs.sum / xs.length) := by
  have bounds : 0 ≤ xs.sum ∧ xs.sum ≤ xs.length := by
    induction xs with
    | nil => simp
    | cons x rest ih =>
      obtain ⟨⟨x_nonneg, x_le⟩, others⟩ := List.forall_mem_cons.mp all
      obtain ⟨sum_nonneg, sum_le⟩ := ih others
      rw [List.sum_cons, List.length_cons, Nat.cast_add_one]
      exact ⟨by linarith, by linarith⟩
  exact ⟨div_nonneg bounds.1 (Nat.cast_nonneg _),
    div_le_one_of_le₀ bounds.2 (Nat.cast_nonneg _)⟩

/-! ## Comparisons -/

/-- The three numbers of a comparison are shares. -/
structure Prf.InRange (p : Prf Rat) : Prop where
  precision : IsShare p.precision
  recalled : IsShare p.recalled
  f1 : IsShare p.f1

/-- A comparison is in range when no more items are common than either side has. -/
theorem Prf.inRange_ofCounts {correct predicted actual : Nat} (le : correct ≤ predicted)
    (le' : correct ≤ actual) : (Prf.ofCounts correct predicted actual).InRange := by
  rw [Prf.ofCounts_eq_portions le le']
  exact ⟨isShare_portion le, isShare_portion le', isShare_portion (by omega)⟩

theorem inRange_overlapScore [DecidableEq τ] (predicted actual : List τ) :
    (overlapScore predicted actual).InRange := by
  obtain ⟨le, le'⟩ := card_inter_le predicted.toFinset actual.toFinset
  rw [overlapScore_eq_ofCounts]
  exact Prf.inRange_ofCounts le le'

theorem inRange_clusterScore [LT τ] [DecidableLT τ] [DecidableEq τ]
    [Std.Asymm (α := τ) (· < ·)] (predicted actual : List (List τ)) :
    (clusterScore predicted actual).InRange := by
  rw [clusterScore_eq_overlapScore]
  exact inRange_overlapScore _ _

/-- Whatever is compared, the three numbers are shares. -/
theorem Metric.inRange_compare (metric : Metric) (expected answer : Json) :
    (metric.compare expected answer).InRange := by
  cases metric with
  | prf1 => exact inRange_overlapScore _ _
  | clusterPrf1 => exact inRange_clusterScore _ _

/-! ## Means of scores -/

/-- The names of the metrics of a score, in their order. -/
def Prf.metricNames : List String :=
  ["precision", "recall", "f1"]

theorem Prf.names_metrics (p : Prf α) : p.metrics.names = Prf.metricNames := rfl

theorem Prf.get?_metrics (p : Prf α) :
    p.metrics.get? "precision" = some p.precision ∧ p.metrics.get? "recall" = some p.recalled ∧
      p.metrics.get? "f1" = some p.f1 :=
  ⟨rfl, rfl, rfl⟩

/-- No average of scores warns. -/
theorem averageEvents_metrics (scores : List (Prf α)) :
    averageEvents (scores.map Prf.metrics) = [] := by
  have each : ∀ p : Prf α, ∀ metric ∈ Prf.metricNames, (p.metrics.get? metric).isNone = false := by
    intro p metric mem
    fin_cases mem <;> rfl
  cases scores with
  | nil => rfl
  | cons first rest =>
    rw [List.map_cons, averageEvents, Prf.names_metrics, List.flatMap_eq_nil_iff]
    intro metric mem
    rw [missingFrom, List.filterMap_eq_nil_iff]
    rintro ⟨r, place⟩ found
    obtain ⟨p, -, rfl⟩ : ∃ p ∈ first :: rest, p.metrics = r :=
      List.mem_map.mp (List.fst_mem_of_mem_zipIdx found)
    show (if (p.metrics.get? metric).isNone = true then _ else none) = none
    rw [each p metric mem]
    exact if_neg Bool.false_ne_true

section
variable [Arithmetic α]

/-- The metric of an average is the mean of the number that it names. -/
theorem meanOf_metrics (scores : List (Prf α)) {metric : String} {number : Prf α → α}
    (named : ∀ p : Prf α, p.metrics.get? metric = some (number p)) :
    meanOf (scores.map Prf.metrics) metric =
      sumFromLeft (scores.map number) / (scores.length : α) := by
  have values : (scores.map Prf.metrics).map (fun r => (r.get? metric).getD 0) =
      scores.map number := by
    rw [List.map_map]
    refine List.map_congr_left ?_
    intro p _
    rw [Function.comp, named p]
    rfl
  rw [meanOf, values, List.length_map]

/-- The average of scores has the metrics of a score, in their order. -/
theorem entries_macroAverage {scores : List (Prf α)} (some : scores ≠ []) :
    (macroAverage (scores.map Prf.metrics)).entries =
      [("precision", sumFromLeft (scores.map Prf.precision) / (scores.length : α)),
        ("recall", sumFromLeft (scores.map Prf.recalled) / (scores.length : α)),
        ("f1", sumFromLeft (scores.map Prf.f1) / (scores.length : α))] := by
  rw [← meanOf_metrics scores fun p => p.get?_metrics.1,
    ← meanOf_metrics scores fun p => p.get?_metrics.2.1,
    ← meanOf_metrics scores fun p => p.get?_metrics.2.2]
  obtain ⟨first, rest, rfl⟩ := List.exists_cons_of_ne_nil some
  rw [List.map_cons, macroAverage, Prf.names_metrics]
  rfl

end

/-- In exact arithmetic the mean is the sum divided by the number of terms. -/
theorem sumFromLeft_rat (xs : List Rat) : sumFromLeft xs = xs.sum := by
  rw [List.sum_eq_foldl]
  rfl

/-- In exact arithmetic the metrics of an average are the means of the three numbers. -/
theorem entries_macroAverage_rat {scores : List (Prf Rat)} (some : scores ≠ []) :
    (macroAverage (scores.map Prf.metrics)).entries =
      [("precision", (scores.map Prf.precision).sum / scores.length),
        ("recall", (scores.map Prf.recalled).sum / scores.length),
        ("f1", (scores.map Prf.f1).sum / scores.length)] := by
  rw [← sumFromLeft_rat, ← sumFromLeft_rat, ← sumFromLeft_rat]
  exact entries_macroAverage some

/-- The metrics of an average of scores in range are shares. -/
theorem isShare_macroAverage {scores : List (Prf Rat)} (each : ∀ p ∈ scores, p.InRange) :
    ∀ entry ∈ (macroAverage (scores.map Prf.metrics)).entries, IsShare entry.2 := by
  by_cases some : scores = []
  · subst some
    exact List.forall_mem_nil _
  · have mean (number : Prf Rat → Rat) (share : ∀ p ∈ scores, IsShare (number p)) :
        IsShare ((scores.map number).sum / scores.length) := by
      have all : ∀ x ∈ scores.map number, IsShare x := List.forall_mem_map.mpr share
      simpa using isShare_mean all
    rw [entries_macroAverage_rat some]
    intro entry mem
    simp only [List.mem_cons, List.not_mem_nil, or_false] at mem
    rcases mem with rfl | rfl | rfl
    · exact mean _ fun p mem => (each p mem).precision
    · exact mean _ fun p mem => (each p mem).recalled
    · exact mean _ fun p mem => (each p mem).f1

end Assay
