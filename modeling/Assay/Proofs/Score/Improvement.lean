import Assay.Proofs.Score.Measure

/-!
# Better answers never score worse

To predict one more item is a hit if the item is an actual one, and else a miss. A hit raises recall
by one divided by the number of actual items and raises the harmonic mean, and it does not lower
precision. A miss leaves recall as it is and raises nothing; if there was a common item, it lowers
precision and the harmonic mean. So the harmonic mean is highest, and one, for the actual set alone.
-/

namespace Assay

/-! ## One more item -/

/-- A portion does not get smaller when one thing more counts to the part and to the whole. -/
theorem portion_le_succ_succ {part whole : Nat} (le : part ≤ whole) :
    portion part whole ≤ portion (part + 1) (whole + 1) := by
  rcases Nat.eq_zero_or_pos whole with rfl | some
  · exact portion_nonneg _ _
  · rw [portion_le_iff some (Nat.succ_pos whole), Nat.mul_succ, Nat.succ_mul]
    exact Nat.add_le_add_left le _

/-- A portion that is not zero gets smaller when one thing more counts to the whole. -/
theorem portion_succ_lt {part whole : Nat} (some : 0 < part) (le : part ≤ whole) :
    portion part (whole + 1) < portion part whole := by
  rw [portion_lt_iff (Nat.succ_pos whole) (some.trans_le le), Nat.mul_succ]
  exact Nat.lt_add_of_pos_right some

theorem portion_succ_le {part whole : Nat} (le : part ≤ whole) :
    portion part (whole + 1) ≤ portion part whole := by
  rcases Nat.eq_zero_or_pos part with rfl | some
  · rw [portion_zero, portion_zero]
  · exact (portion_succ_lt some le).le

namespace Prf

variable {common predicted actual : Nat}

/-- A hit is one more common item among one more predicted. -/
theorem portions_hit (le : common ≤ predicted) (some : 0 < actual) :
    let before := portions common predicted actual
    let after := portions (common + 1) (predicted + 1) actual
    after.recalled = before.recalled + 1 / (actual : Rat) ∧ before.recalled < after.recalled ∧
      before.f1 < after.f1 ∧ before.precision ≤ after.precision := by
  intro before after
  have raised : after.recalled = before.recalled + 1 / (actual : Rat) := by
    show portion (common + 1) actual = portion common actual + _
    rw [portion_eq_div, portion_eq_div, Nat.cast_add_one, add_div]
  have step : (0 : Rat) < 1 / actual := one_div_pos.mpr (Nat.cast_pos.mpr some)
  refine ⟨raised, by linarith, ?_, portion_le_succ_succ le⟩
  show portion (2 * common) (predicted + actual) <
    portion (2 * (common + 1)) (predicted + 1 + actual)
  rw [portion_lt_iff (by omega) (by omega)]
  -- what is left of the cross products is `common` against all predicted and actual items
  have fewer : common < predicted + actual := by omega
  nlinarith

/-- A miss is one more predicted item with no more common ones. -/
theorem portions_miss (le : common ≤ predicted) (le' : common ≤ actual) :
    let before := portions common predicted actual
    let after := portions common (predicted + 1) actual
    after.recalled = before.recalled ∧ after.precision ≤ before.precision ∧
      after.f1 ≤ before.f1 ∧
      (0 < common → after.precision < before.precision ∧ after.f1 < before.f1) := by
  intro before after
  have both : 2 * common ≤ predicted + actual := by omega
  have grown : after.f1 = portion (2 * common) (predicted + actual + 1) := by
    rw [Nat.add_right_comm]
    rfl
  refine ⟨rfl, portion_succ_le le, grown ▸ portion_succ_le both, fun some => ?_⟩
  exact ⟨portion_succ_lt some le,
    grown ▸ portion_succ_lt (Nat.mul_pos Nat.two_pos some) both⟩

end Prf

/-! ## Sets and collections -/

section
variable [DecidableEq τ] {predicted actual : Finset τ} {item : τ}

theorem setMeasure_insert_hit (fresh : item ∉ predicted) (mem : item ∈ actual) :
    setMeasure (insert item predicted) actual =
      .portions ((predicted ∩ actual).card + 1) (predicted.card + 1) actual.card := by
  have fresh' : item ∉ predicted ∩ actual := fun both => fresh (Finset.mem_inter.mp both).1
  rw [setMeasure, Finset.insert_inter_of_mem mem, Finset.card_insert_of_notMem fresh,
    Finset.card_insert_of_notMem fresh']

theorem setMeasure_insert_miss (fresh : item ∉ predicted) (absent : item ∉ actual) :
    setMeasure (insert item predicted) actual =
      .portions (predicted ∩ actual).card (predicted.card + 1) actual.card := by
  rw [setMeasure, Finset.insert_inter_of_notMem absent, Finset.card_insert_of_notMem fresh]

/-- No set has a higher harmonic mean than the predicted one exactly if that is the actual set. -/
theorem f1_setMeasure_maximal_iff (some : actual.Nonempty) :
    (∀ other, (setMeasure other actual).f1 ≤ (setMeasure predicted actual).f1) ↔
      predicted = actual := by
  have bound (other : Finset τ) : (setMeasure other actual).f1 ≤ 1 :=
    Prf.f1_portions_le_one (card_inter_le other actual).1 (card_inter_le other actual).2
  have perfect : (setMeasure actual actual).f1 = 1 :=
    (f1_setMeasure_eq_one_iff actual actual).mpr ⟨rfl, some⟩
  constructor
  · intro maximal
    have one : (setMeasure predicted actual).f1 = 1 :=
      le_antisymm (bound predicted) (perfect ▸ maximal actual)
    exact ((f1_setMeasure_eq_one_iff predicted actual).mp one).1
  · rintro rfl other
    exact perfect ▸ bound other

end

/-- **Better answers never score worse.** One more item in a predicted collection raises the score
if it is an actual one and does not raise it if it is none, however the collections are written
down; so for actual items that there are, the harmonic mean is highest, and one, for the same set
alone. -/
theorem better_answers_never_score_worse [DecidableEq τ] :
    (∀ {predicted extended actual : List τ} {item : τ}, item ∉ predicted →
        extended.toFinset = insert item predicted.toFinset →
        let before : Prf Rat := overlapScore predicted actual
        let after : Prf Rat := overlapScore extended actual
        (item ∈ actual →
          after.recalled = before.recalled + 1 / (actual.toFinset.card : Rat) ∧
            before.recalled < after.recalled ∧ before.f1 < after.f1 ∧
            before.precision ≤ after.precision) ∧
        (item ∉ actual →
          after.recalled = before.recalled ∧ after.precision ≤ before.precision ∧
            after.f1 ≤ before.f1 ∧
            ((∃ common ∈ predicted, common ∈ actual) →
              after.precision < before.precision ∧ after.f1 < before.f1))) ∧
      ∀ {actual : List τ}, actual ≠ [] → ∀ predicted : List τ,
        let score : Prf Rat := overlapScore predicted actual
        (score.f1 = 1 ↔ predicted.toFinset = actual.toFinset) ∧
          ((∀ other : List τ, (overlapScore other actual : Prf Rat).f1 ≤ score.f1) ↔
            predicted.toFinset = actual.toFinset) := by
  constructor
  · intro predicted extended actual item fresh grown before after
    have fresh' : item ∉ predicted.toFinset := List.mem_toFinset.not.mpr fresh
    obtain ⟨le, le'⟩ := card_inter_le predicted.toFinset actual.toFinset
    have before_eq : before = setMeasure predicted.toFinset actual.toFinset :=
      overlapScore_eq_setMeasure predicted actual
    have after_eq : after = setMeasure (insert item predicted.toFinset) actual.toFinset :=
      grown ▸ overlapScore_eq_setMeasure extended actual
    constructor
    · intro mem
      have mem' : item ∈ actual.toFinset := List.mem_toFinset.mpr mem
      rw [after_eq, before_eq, setMeasure_insert_hit fresh' mem']
      exact Prf.portions_hit le (Finset.card_pos.mpr ⟨item, mem'⟩)
    · intro absent
      rw [after_eq, before_eq, setMeasure_insert_miss fresh' (List.mem_toFinset.not.mpr absent)]
      obtain ⟨recalled, precision, f1, lower⟩ := Prf.portions_miss le le'
      refine ⟨recalled, precision, f1, ?_⟩
      rintro ⟨common, here, there⟩
      refine lower (Finset.card_pos.mpr ⟨common, ?_⟩)
      exact Finset.mem_inter.mpr ⟨List.mem_toFinset.mpr here, List.mem_toFinset.mpr there⟩
  · intro actual some predicted score
    have some' : actual.toFinset.Nonempty := List.toFinset_nonempty_iff actual |>.mpr some
    have score_eq : score = setMeasure predicted.toFinset actual.toFinset :=
      overlapScore_eq_setMeasure predicted actual
    rw [score_eq, f1_setMeasure_eq_one_iff, ← f1_setMeasure_maximal_iff some']
    refine ⟨and_iff_left some', ?_⟩
    constructor
    · intro maximal other
      have listed := maximal other.toList
      rwa [overlapScore_eq_setMeasure, Finset.toList_toFinset] at listed
    · intro maximal other
      rw [overlapScore_eq_setMeasure]
      exact maximal other.toFinset

/-- The third of three actual items is a hit, which leaves a predicted item that is wrong, and a
fourth item is a miss; two of the actual items alone are not the best answer. -/
theorem better_answers_never_score_worse_third :
    (overlapScore [2, 9, 1] [1, 2, 3] : Prf Rat).f1 <
        (overlapScore [3, 1, 2, 9, 3] [1, 2, 3] : Prf Rat).f1 ∧
      (overlapScore [4, 2, 9, 1] [1, 2, 3] : Prf Rat).f1 <
        (overlapScore [2, 9, 1] [1, 2, 3] : Prf Rat).f1 ∧
      (overlapScore [3, 2, 1, 2] [1, 2, 3] : Prf Rat).f1 = 1 ∧
      ¬ ∀ other : List Nat, (overlapScore other [1, 2, 3] : Prf Rat).f1 ≤
        (overlapScore [1, 2] [1, 2, 3] : Prf Rat).f1 := by
  obtain ⟨one_more, best⟩ := better_answers_never_score_worse (τ := Nat)
  have hit := (@one_more [2, 9, 1] [3, 1, 2, 9, 3] [1, 2, 3] 3 (by decide) (by decide)).1
  have miss := (@one_more [2, 9, 1] [4, 2, 9, 1] [1, 2, 3] 4 (by decide) (by decide)).2
  have same := @best [1, 2, 3] (by decide)
  refine ⟨(hit (by decide)).2.2.1, ?_, (same [3, 2, 1, 2]).1.mpr (by decide), ?_⟩
  · exact ((miss (by decide)).2.2.2 ⟨1, by decide, by decide⟩).2
  · intro maximal
    have sets := (same [1, 2]).2.mp maximal
    revert sets
    decide

end Assay
