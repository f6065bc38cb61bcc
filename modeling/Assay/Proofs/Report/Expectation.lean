import Assay.Report.Expectation
import Assay.Proofs.Decimal.Comparison

/-!
# What an expectation lets pass

An expectation refuses a metric that is below its threshold, or farther from the expected value than
the tolerance. Main statement: of the metrics that can be compared just those pass that reach the
threshold, or that lie within the tolerance. What cannot be compared passes as well: if one of the
numbers is none, or if the metric and what is expected are the same infinity.
-/

namespace Assay

open Decimal

/-! ## Checks -/

namespace Expectation

/-- A check of a value that may be missing: it passes unless it is refused. -/
def checked (found : Option Float) (missing : Unmet) (refused : Float → Prop)
    [DecidablePred refused] (why : Float → Unmet) : Except Unmet Unit :=
  match found with
  | none => .error missing
  | some value => if refused value then .error (why value) else .ok ()

section
variable {found : Option Float} {missing : Unmet} {refused : Float → Prop}
  [DecidablePred refused] {why : Float → Unmet}

theorem checked_eq_ok_iff :
    checked found missing refused why = .ok () ↔ ∃ value, found = some value ∧ ¬ refused value := by
  cases found with
  | none => simp [checked]
  | some value => by_cases no : refused value <;> simp [checked, no]

theorem checked_eq_error_iff {e : Unmet} :
    checked found missing refused why = .error e ↔
      (found = none ∧ e = missing) ∨ ∃ value, found = some value ∧ refused value ∧ e = why value := by
  cases found with
  | none => simp [checked, eq_comm]
  | some value => by_cases no : refused value <;> simp [checked, no, eq_comm]

/-- What a check makes of the value it is about, if it has one: a value that reaches the mark passes,
and so does a value that cannot be compared with it. A check keeps to its mark when there is none of
the second kind. -/
structure Judges (outcome : Except Unmet Unit) (has reached blurred : Float → Prop)
    (missing : Unmet) (why : Float → Unmet) : Prop where
  passed : outcome = .ok () ↔ ∃ value, has value ∧ (reached value ∨ blurred value)
  kept : (outcome = .ok () ↔ ∃ value, has value ∧ reached value) ↔
    ∀ value, has value → ¬ blurred value
  failed : ∀ e, outcome = .error e ↔ ((¬ ∃ value, has value) ∧ e = missing) ∨
    ∃ value, has value ∧ ¬ (reached value ∨ blurred value) ∧ e = why value

theorem judges_checked {has reached blurred : Float → Prop}
    (held : ∀ value, found = some value ↔ has value)
    (refuses : ∀ value, ¬ refused value ↔ reached value ∨ blurred value)
    (clear : ∀ value, reached value → ¬ blurred value) :
    Judges (checked found missing refused why) has reached blurred missing why := by
  have passed : checked found missing refused why = .ok () ↔
      ∃ value, has value ∧ (reached value ∨ blurred value) := by
    rw [checked_eq_ok_iff]
    simp only [held, refuses]
  refine ⟨passed, ?_, ?_⟩
  · rw [passed]
    constructor
    · intro same value has blurred
      -- there is one value only, and it cannot both reach the mark and be blurred
      obtain ⟨other, has', reached⟩ := same.mp ⟨value, has, .inr blurred⟩
      obtain rfl := Option.some.inj (((held other).mpr has').symm.trans ((held value).mpr has))
      exact clear other reached blurred
    · intro none
      constructor
      · rintro ⟨value, has, reached | blurred⟩
        · exact ⟨value, has, reached⟩
        · exact absurd blurred (none value has)
      · rintro ⟨value, has, reached⟩
        exact ⟨value, has, .inl reached⟩
  · intro e
    rw [checked_eq_error_iff]
    simp only [Option.eq_none_iff_forall_ne_some, ne_eq, held, not_exists, ← refuses, not_not]

end

end Expectation

open Expectation

theorem Metrics.expectAtLeast_eq (metrics : Metrics) (metric : String) (least : Float) :
    metrics.expectAtLeast metric least =
      checked (metrics.get? metric) (.missing metric) (· < least) (.below metric · least) := rfl

theorem Summary.expectClose_eq (s : Summary) (task metric : String) (expected tolerance : Float) :
    s.expectClose task metric expected tolerance =
      checked ((s.get? task).bind (·.get? metric)) (.missingInTask metric task s)
        (fun value => tolerance < (value - expected).abs) (.apart metric task · expected s) := rfl

/-! ## What passes -/

/-- A metric of a task has a value. -/
def Summary.Has (s : Summary) (task metric : String) (value : Float) : Prop :=
  ∃ metrics, s.get? task = some metrics ∧ metrics.get? metric = some value

theorem Summary.has_iff {s : Summary} {task metric : String} {value : Float} :
    (s.get? task).bind (·.get? metric) = some value ↔ s.Has task metric value :=
  Option.bind_eq_some_iff

/-- **What cannot be compared passes.** A metric that is to reach a threshold passes just when it is
there and is at least as large, or one of the two is no number. A metric of a task that is to be
close to a value passes just when it is there and its distance from the value is at most the
tolerance, or one of the three is no number, or the metric and the value are the same infinity. So
the check does what is asked just when there is no metric of this second kind. Else the error tells
the metric that is missing, or how it misses its mark. -/
theorem expectations_pass_iff (metrics : Metrics) (s : Summary) (task metric : String)
    (least expected tolerance : Float) :
    Judges (metrics.expectAtLeast metric least)
        (fun value => metrics.get? metric = some value)
        (fun value => least ≤ value)
        (fun value => value.isNaN = true ∨ least.isNaN = true)
        (.missing metric) (fun value => .below metric value least) ∧
      Judges (s.expectClose task metric expected tolerance)
        (fun value => s.Has task metric value)
        (fun value => (value - expected).abs ≤ tolerance)
        (fun value => tolerance.isNaN = true ∨ value.isNaN = true ∨ expected.isNaN = true ∨
          value.isInf = true ∧ (value == expected) = true)
        (.missingInTask metric task s) (fun value => .apart metric task value expected s) := by
  constructor
  · rw [Metrics.expectAtLeast_eq]
    refine judges_checked (fun value => Iff.rfl) (fun value => not_lt_iff) ?_
    intro value reached none
    exact isNumber_of_le reached none.symm
  · rw [Summary.expectClose_eq]
    refine judges_checked (fun value => Summary.has_iff) ?_ ?_
    · intro value
      rw [not_lt_iff, isNaN_abs, isNaN_sub_iff]
    · intro value near none
      apply isNumber_of_le near
      rwa [isNaN_abs, isNaN_sub_iff, or_comm]

/-- Metrics with one that is no number. -/
def unscored : Metrics :=
  .ofList [("f1", 0 / 0)]

/-- A summary of one task with these metrics. -/
def unscoredSummary : Summary :=
  .ofList [("a", unscored)]

/-- What is no number passes for a metric that reaches a threshold, and for one that is close to
what is expected. -/
theorem unscored_passes :
    unscored.expectAtLeast "f1" 0.5 = .ok () ∧
      (¬ ∃ value, unscored.get? "f1" = some value ∧ 0.5 ≤ value) ∧
      unscoredSummary.expectClose "a" "f1" 0.5 0.125 = .ok () ∧
      ¬ ∃ value, unscoredSummary.Has "a" "f1" value ∧ (value - 0.5).abs ≤ 0.125 := by
  have found : unscored.get? "f1" = some (0 / 0) := rfl
  have held : (unscoredSummary.get? "a").bind (·.get? "f1") = some (0 / 0) := rfl
  refine ⟨?_, ?_, ?_, ?_⟩
  · rw [Metrics.expectAtLeast_eq, checked_eq_ok_iff]
    exact ⟨_, found, by decide +kernel⟩
  · rintro ⟨value, same, reached⟩
    obtain rfl := Option.some.inj (found.symm.trans same)
    revert reached
    decide +kernel
  · rw [Summary.expectClose_eq, checked_eq_ok_iff]
    exact ⟨_, held, by decide +kernel⟩
  · rintro ⟨value, has, near⟩
    obtain rfl := Option.some.inj (held.symm.trans (Summary.has_iff.mpr has))
    revert near
    decide +kernel

end Assay
