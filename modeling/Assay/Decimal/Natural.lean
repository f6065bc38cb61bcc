/-!
# Natural numbers in decimal

The decimal writing of a natural number as a list of characters, without leading zeros, and its
reading. Zero is the one digit `0`. Reading is a left fold, so `ofDigits (digits n) = n`.
-/

namespace Assay.Decimal

/-! ## Digits -/

/-- The character of a digit; `d` is below ten wherever this is used. -/
def digitChar (d : Nat) : Char :=
  Char.ofNat (48 + d)

/-- The value of a digit character, and zero for any other character. -/
def digitValue (c : Char) : Nat :=
  if '0' ≤ c ∧ c ≤ '9' then c.toNat - 48 else 0

/-- The ASCII digits, which are the only digits of the formats of this library. -/
def isDigit (c : Char) : Bool :=
  decide ('0' ≤ c ∧ c ≤ '9')

/-- The decimal digits of `n`, most significant first. -/
def digits (n : Nat) : List Char :=
  if n < 10 then [digitChar n] else digits (n / 10) ++ [digitChar (n % 10)]

/-- The number that a list of digits writes. -/
def ofDigits (ds : List Char) : Nat :=
  ds.foldl (fun n c => 10 * n + digitValue c) 0

/-- The digits of `n`, filled up with leading zeros to at least `width` characters. -/
def padded (width n : Nat) : List Char :=
  let ds := digits n
  List.replicate (width - ds.length) '0' ++ ds

/-! ## Laws -/

theorem digits_of_lt {n : Nat} (h : n < 10) : digits n = [digitChar n] := by
  rw [digits, if_pos h]

theorem digits_of_ge {n : Nat} (h : 10 ≤ n) :
    digits n = digits (n / 10) ++ [digitChar (n % 10)] := by
  rw [digits, if_neg (by omega)]

theorem digits_ne_nil (n : Nat) : digits n ≠ [] := by
  rw [digits]
  split <;> simp

theorem digitValue_digitChar : ∀ d, d < 10 → digitValue (digitChar d) = d := by
  decide

theorem isDigit_digitChar : ∀ d, d < 10 → isDigit (digitChar d) = true := by
  decide

/-- Every character of the decimal writing is a digit. -/
theorem isDigit_of_mem_digits (n : Nat) : ∀ c ∈ digits n, isDigit c = true := by
  rw [digits]
  split
  · intro c hc
    rw [List.mem_singleton.1 hc]
    exact isDigit_digitChar n (by assumption)
  · intro c hc
    rcases List.mem_append.1 hc with hc | hc
    · exact isDigit_of_mem_digits (n / 10) c hc
    · rw [List.mem_singleton.1 hc]
      exact isDigit_digitChar _ (by omega)
termination_by n
decreasing_by omega

theorem ofDigits_append (ds : List Char) (c : Char) :
    ofDigits (ds ++ [c]) = 10 * ofDigits ds + digitValue c := by
  simp [ofDigits]

/-- Reading the decimal writing of `n` gives `n` back. -/
theorem ofDigits_digits (n : Nat) : ofDigits (digits n) = n := by
  rw [digits]
  split
  · simp [ofDigits, digitValue_digitChar n (by assumption)]
  · rw [ofDigits_append, ofDigits_digits (n / 10), digitValue_digitChar _ (by omega)]
    omega
termination_by n
decreasing_by omega

end Assay.Decimal
