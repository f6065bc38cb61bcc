import Assay.Decimal.Natural
import Mathlib.Algebra.Group.Nat.Defs

/-!
# Digits of natural numbers

The decimal writing of a positive number leads with no zero, and a number below `10 ^ k` has at most
`k` digits, so that padding it to `k` of them gives exactly `k`.
-/

namespace Assay.Decimal

/-- What digits after a number make of it. -/
def extend (n : Nat) (ds : List Char) : Nat :=
  ds.foldl (fun n c => 10 * n + digitValue c) n

theorem extend_cons (n : Nat) (d : Char) (ds : List Char) :
    extend n (d :: ds) = extend (10 * n + digitValue d) ds := rfl

theorem ofDigits_cons (d : Char) (ds : List Char) :
    ofDigits (d :: ds) = extend (digitValue d) ds := by
  rw [ofDigits, List.foldl_cons, Nat.mul_zero, Nat.zero_add]
  rfl

/-- More digits never make a number smaller. -/
theorem le_extend (n : Nat) (ds : List Char) : n ≤ extend n ds := by
  induction ds generalizing n with
  | nil => exact Nat.le_refl n
  | cons d ds ih =>
    have le := ih (10 * n + digitValue d)
    rw [extend_cons]
    omega

/-- The first digit of a positive number is no zero. -/
theorem digits_head {n : Nat} (h : 0 < n) : ∃ d ds, digits n = d :: ds ∧ d ≠ '0' := by
  induction n using Nat.strongRecOn with
  | _ n ih =>
    by_cases small : n < 10
    · refine ⟨digitChar n, [], digits_of_lt small, ?_⟩
      intro zero
      have value := digitValue_digitChar n small
      rw [zero] at value
      have none : digitValue '0' = 0 := by decide
      omega
    · obtain ⟨d, ds, front, nonzero⟩ := ih (n / 10) (by omega) (by omega)
      refine ⟨d, ds ++ [digitChar (n % 10)], ?_, nonzero⟩
      rw [digits_of_ge (by omega), front, List.cons_append]

/-- A number below `10 ^ k` has at most `k` digits. -/
theorem length_digits_le {n k : Nat} (h : n < 10 ^ (k + 1)) : (digits n).length ≤ k + 1 := by
  induction k generalizing n with
  | zero =>
    rw [digits_of_lt (by simpa using h)]
    exact Nat.le_refl 1
  | succ k ih =>
    by_cases small : n < 10
    · rw [digits_of_lt small, List.length_singleton]
      omega
    · have front : n / 10 < 10 ^ (k + 1) := by
        rw [Nat.pow_succ] at h
        omega
      rw [digits_of_ge (by omega), List.length_append, List.length_singleton]
      exact Nat.succ_le_succ (ih front)

/-! ## What follows digits -/

/-- What may follow digits without being one more of them. -/
def EndsDigits (cs : List Char) : Prop :=
  ∀ c after, cs = c :: after → isDigit c = false

theorem endsDigits_cons {c : Char} (h : isDigit c = false) (cs : List Char) :
    EndsDigits (c :: cs) := by
  intro c' after same
  rw [← (List.cons.inj same).1]
  exact h

/-! ## Padding -/

theorem length_padded {n k : Nat} (h : n < 10 ^ (k + 1)) :
    (padded (k + 1) n).length = k + 1 := by
  have le := length_digits_le h
  rw [padded, List.length_append, List.length_replicate]
  omega

theorem ofDigits_padded (k n : Nat) : ofDigits (padded k n) = n := by
  have zeros (m : Nat) : List.foldl (fun n c => 10 * n + digitValue c) 0 (List.replicate m '0') =
      0 := by
    induction m with
    | zero => rfl
    | succ m ih => exact ih
  rw [padded, ofDigits, List.foldl_append, zeros]
  exact ofDigits_digits n

theorem isDigit_of_mem_padded (k n : Nat) : ∀ c ∈ padded k n, isDigit c = true := by
  intro c mem
  rcases List.mem_append.mp mem with mem | mem
  · rw [(List.mem_replicate.mp mem).2]
    decide
  · exact isDigit_of_mem_digits n c mem

theorem padded_ne_nil (k n : Nat) : padded k n ≠ [] := by
  intro empty
  exact digits_ne_nil n (List.append_eq_nil_iff.mp empty).2

end Assay.Decimal
