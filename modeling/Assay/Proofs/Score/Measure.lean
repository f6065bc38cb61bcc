import Assay.Proofs.Score.Pairs
import Assay.Proofs.Score.Portions
import Assay.Score.Answer
import Mathlib.Data.Finset.Card
import Mathlib.Tactic.NormNum

/-!
# The measure of two sets

Two collections are compared as sets, so their comparison is a function of three counts: the common
items, the predicted ones and the expected ones. In exact arithmetic precision is the portion of the
common items among the predicted ones, recall that among the expected ones, and the harmonic mean of
the two is the portion of the common items, counted on both sides, among all items of both sides.
Main statement: this is what a comparison of collections and the score of two flat answers are, with
the laws of the three numbers; and in any arithmetic a score depends on nothing but the two sets.
-/

namespace Assay

/-! ## Collections as sets -/

section
variable [DecidableEq τ]

theorem toFinset_eraseDups (items : List τ) : items.eraseDups.toFinset = items.toFinset := by
  ext item
  rw [List.mem_toFinset, List.mem_toFinset, List.mem_eraseDups]

theorem length_eraseDups (items : List τ) : items.eraseDups.length = items.toFinset.card := by
  rw [← List.toFinset_card_of_nodup (nodup_eraseDups items), toFinset_eraseDups]

theorem commonCount_eq_card {xs : List τ} (differ : xs.Nodup) (ys : List τ) :
    commonCount xs ys = (xs.toFinset ∩ ys.toFinset).card := by
  rw [commonCount, ← List.toFinset_card_of_nodup (differ.filter _)]
  congr 1
  ext item
  simp

/-- A comparison counts the items of two sets and of what they have in common. -/
theorem overlapScore_eq_ofCounts [Arithmetic α] (predicted actual : List τ) :
    (overlapScore predicted actual : Prf α) =
      .ofCounts (predicted.toFinset ∩ actual.toFinset).card predicted.toFinset.card
        actual.toFinset.card := by
  rw [overlapScore, commonCount_eq_card (nodup_eraseDups predicted), toFinset_eraseDups,
    toFinset_eraseDups, length_eraseDups, length_eraseDups]

/-- In any arithmetic a comparison depends on the two sets only. -/
theorem overlapScore_congr [Arithmetic α] {predicted predicted' actual actual' : List τ}
    (same : predicted'.toFinset = predicted.toFinset) (same' : actual'.toFinset = actual.toFinset) :
    (overlapScore predicted' actual' : Prf α) = overlapScore predicted actual := by
  rw [overlapScore_eq_ofCounts, overlapScore_eq_ofCounts, same, same']

/-- The measure of a predicted set against an actual one. -/
def setMeasure (predicted actual : Finset τ) : Prf Rat :=
  .portions (predicted ∩ actual).card predicted.card actual.card

theorem card_inter_le (predicted actual : Finset τ) :
    (predicted ∩ actual).card ≤ predicted.card ∧ (predicted ∩ actual).card ≤ actual.card :=
  ⟨Finset.card_le_card Finset.inter_subset_left, Finset.card_le_card Finset.inter_subset_right⟩

/-- In exact arithmetic a comparison is the measure of the two sets. -/
theorem overlapScore_eq_setMeasure (predicted actual : List τ) :
    overlapScore predicted actual = setMeasure predicted.toFinset actual.toFinset := by
  obtain ⟨le, le'⟩ := card_inter_le predicted.toFinset actual.toFinset
  rw [overlapScore_eq_ofCounts, Prf.ofCounts_eq_portions le le', setMeasure]

/-- To exchange the two sets exchanges precision and recall. -/
theorem setMeasure_swap (predicted actual : Finset τ) :
    setMeasure actual predicted =
      ⟨(setMeasure predicted actual).recalled, (setMeasure predicted actual).precision,
        (setMeasure predicted actual).f1⟩ := by
  simp only [setMeasure, Prf.portions, Finset.inter_comm actual, Nat.add_comm actual.card]

/-- The harmonic mean is one exactly if the two sets are the same and not empty. -/
theorem f1_setMeasure_eq_one_iff (predicted actual : Finset τ) :
    (setMeasure predicted actual).f1 = 1 ↔ predicted = actual ∧ actual.Nonempty := by
  obtain ⟨le, le'⟩ := card_inter_le predicted actual
  rw [setMeasure, Prf.f1_portions_eq_one_iff le le']
  constructor
  · rintro ⟨some, all, all'⟩
    have within : predicted ∩ actual = predicted :=
      Finset.eq_of_subset_of_card_le Finset.inter_subset_left all.ge
    have within' : predicted ∩ actual = actual :=
      Finset.eq_of_subset_of_card_le Finset.inter_subset_right all'.ge
    exact ⟨within.symm.trans within', Finset.card_pos.mp (all' ▸ some)⟩
  · rintro ⟨rfl, some⟩
    rw [Finset.inter_self]
    exact ⟨some.card_pos, rfl, rfl⟩

/-- All three numbers are one exactly if the two sets are the same and not empty. -/
theorem setMeasure_eq_one_iff (predicted actual : Finset τ) :
    setMeasure predicted actual = ⟨1, 1, 1⟩ ↔ predicted = actual ∧ actual.Nonempty := by
  constructor
  · intro perfect
    refine (f1_setMeasure_eq_one_iff predicted actual).mp ?_
    rw [perfect]
  · rintro ⟨rfl, some⟩
    have count := some.card_pos
    rw [setMeasure, Finset.inter_self, Prf.portions, ← Nat.two_mul, portion_self count,
      portion_self (Nat.mul_pos Nat.two_pos count)]

end

/-! ## Clusterings as sets of pairs -/

/-- Two clusterings are compared as the sets of their pairs. -/
theorem clusterScore_eq_overlapScore [Arithmetic α] [LT τ] [DecidableLT τ] [DecidableEq τ]
    [Std.Asymm (α := τ) (· < ·)] (predicted actual : List (List τ)) :
    (clusterScore predicted actual : Prf α) =
      overlapScore (clusterPairs predicted) (clusterPairs actual) := by
  have common : (clusterPairs predicted).countP (shareCluster actual) =
      ((clusterPairs predicted).toFinset ∩ (clusterPairs actual).toFinset).card := by
    rw [List.countP_eq_length_filter,
      ← List.toFinset_card_of_nodup ((nodup_clusterPairs predicted).filter _)]
    congr 1
    ext pair
    rw [Finset.mem_inter, List.mem_toFinset, List.mem_toFinset, List.mem_toFinset, List.mem_filter,
      mem_clusterPairs, mem_clusterPairs]
    -- a pair of one side is ordered, so it is one of the other side if its items share a cluster
    constructor
    · rintro ⟨⟨ordered, here⟩, there⟩
      exact ⟨⟨ordered, here⟩, ordered, there⟩
    · rintro ⟨here, -, there⟩
      exact ⟨here, there⟩
  rw [clusterScore, overlapScore_eq_ofCounts, common,
    List.toFinset_card_of_nodup (nodup_clusterPairs predicted),
    List.toFinset_card_of_nodup (nodup_clusterPairs actual)]

/-! ## Flat answers -/

/-- The different items of a flat answer, by their keys. What is no list has none. -/
def itemSet : Json → Finset ItemKey
  | .arr items => (items.map ItemKey.ofJson).toFinset
  | _ => ∅

theorem toFinset_answerItems (answer : Json) : (answerItems answer).toFinset = itemSet answer := by
  cases answer <;> rfl

/-- **The score of two flat answers is the measure of their sets of items**, the answer being what
is predicted. -/
theorem prf1_score_is_measure :
    (∀ {τ : Type u} [DecidableEq τ] (predicted actual : List τ),
        overlapScore predicted actual = setMeasure predicted.toFinset actual.toFinset ∧
          ∀ {α : Type} [Arithmetic α] {predicted' actual' : List τ},
            predicted'.toFinset = predicted.toFinset → actual'.toFinset = actual.toFinset →
              (overlapScore predicted' actual' : Prf α) = overlapScore predicted actual) ∧
      ∀ expected output : Json,
        let score := setMeasure (itemSet output) (itemSet expected)
        Metric.prf1.score expected output = score.metrics ∧
          ((0 < score.precision ∧ 0 < score.recalled ∧ 0 < score.f1) ∨
            (score.precision = 0 ∧ score.recalled = 0 ∧ score.f1 = 0)) ∧
          (score.precision = 1 ∧ score.recalled = 1 ∧ score.f1 = 1 ↔
            itemSet output = itemSet expected ∧ (itemSet expected).Nonempty) ∧
          (min score.precision score.recalled ≤ score.f1 ∧
            score.f1 ≤ max score.precision score.recalled) ∧
          Metric.prf1.score output expected =
            Prf.metrics ⟨score.recalled, score.precision, score.f1⟩ ∧
          ∀ {α : Type} [Arithmetic α] {expected' output' : Json},
            itemSet expected' = itemSet expected → itemSet output' = itemSet output →
              (Metric.prf1.score expected' output' : Register α) =
                Metric.prf1.score expected output := by
  refine ⟨fun predicted actual => ⟨overlapScore_eq_setMeasure predicted actual,
    overlapScore_congr⟩, fun expected output => ?_⟩
  intro score
  obtain ⟨le, le'⟩ := card_inter_le (itemSet output) (itemSet expected)
  have measured (gold given : Json) :
      Metric.prf1.score gold given = (setMeasure (itemSet given) (itemSet gold)).metrics := by
    rw [Metric.score, Metric.compare, overlapScore_eq_setMeasure, toFinset_answerItems,
      toFinset_answerItems]
  refine ⟨measured expected output, Prf.portions_alike le le', ?_, Prf.portions_between le le', ?_,
    ?_⟩
  · rw [← setMeasure_eq_one_iff]
    show _ ↔ score = _
    obtain ⟨precision, recalled, f1⟩ := score
    rw [Prf.mk.injEq]
  · rw [measured output expected, setMeasure_swap]
  · intro α _ expected' output' gold given
    have numbers : (Metric.prf1.compare expected' output' : Prf α) =
        Metric.prf1.compare expected output := by
      refine overlapScore_congr ?_ ?_
      · rw [toFinset_answerItems, toFinset_answerItems, given]
      · rw [toFinset_answerItems, toFinset_answerItems, gold]
    rw [Metric.score, Metric.score, numbers]

/-- A string, the truth value of the same text, and an empty list. -/
def mixedAnswer : Json := .arr [.str "true", .bool true, .arr []]

/-- Two items, one of them twice. -/
def repeatedAnswer : Json := .arr [.bool true, .str "b", .bool true]

/-- The two items without the repetition, the other way round. -/
def pairedAnswer : Json := .arr [.str "b", .bool true]

/-- One item of two is right and one of three is found, since a truth value is not the string of its
text; and a repetition does not count. -/
theorem prf1_score_is_measure_mixed :
    (Metric.prf1.score mixedAnswer repeatedAnswer : Register Rat) =
        Prf.metrics ⟨1 / 2, 1 / 3, 2 / 5⟩ ∧
      (Metric.prf1.score mixedAnswer repeatedAnswer : Register Float) =
        Metric.prf1.score mixedAnswer pairedAnswer := by
  obtain ⟨score, -, -, -, -, unchanged⟩ := prf1_score_is_measure.{0}.2 mixedAnswer pairedAnswer
  have sets : itemSet repeatedAnswer = itemSet pairedAnswer := by decide
  have measured : setMeasure (itemSet pairedAnswer) (itemSet mixedAnswer) =
      ⟨1 / 2, 1 / 3, 2 / 5⟩ := by
    have common : (itemSet pairedAnswer ∩ itemSet mixedAnswer).card = 1 := by decide
    have predicted : (itemSet pairedAnswer).card = 2 := by decide
    have actual : (itemSet mixedAnswer).card = 3 := by decide
    rw [setMeasure, common, predicted, actual]
    norm_num [Prf.portions, portion]
  constructor
  · rw [unchanged rfl sets, score, measured]
  · exact unchanged rfl sets

end Assay
