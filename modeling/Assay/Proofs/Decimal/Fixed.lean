import Assay.Decimal.Fixed
import Assay.Proofs.Decimal.Digits

/-!
# Characters of numbers with decimal places

A number with a fixed number of decimal places is written with digits, a point and a sign, and what
is not finite with letters; there is no blank and no line break in it, and it has more than one
character. So it ends where the line does, and it is no dash.
-/

namespace Assay.Decimal

/-- The characters beside digits: point, sign, and the letters of what is not finite. -/
def fixedMarks : List Char :=
  ['.', '-', 'N', 'a', 'i', 'n', 'f']

theorem mem_fixedFinite {places : Nat} {negative : Bool} {mantissa : Nat} {exponent : Int}
    {c : Char} (h : c ∈ fixedFinite places negative mantissa exponent) :
    isDigit c = true ∨ c ∈ fixedMarks := by
  simp only [fixedFinite, List.mem_append, List.mem_cons] at h
  rcases h with (sign | whole) | point | fraction
  · split at sign
    · rw [List.mem_singleton.mp sign]
      exact .inr (by decide)
    · cases sign
  · exact .inl (isDigit_of_mem_padded _ _ c (List.mem_of_mem_take whole))
  · rw [point]
    exact .inr (by decide)
  · exact .inl (isDigit_of_mem_padded _ _ c (List.mem_of_mem_drop fraction))

/-- A number with decimal places is written with digits and marks. -/
theorem mem_fixedChars {places : Nat} {x : Float} {c : Char} (h : c ∈ fixedChars places x) :
    isDigit c = true ∨ c ∈ fixedMarks := by
  have words : ∀ c ∈ ['N', 'a', 'N'] ++ ['-', 'i', 'n', 'f'], c ∈ fixedMarks := by
    simp [fixedMarks]
  unfold fixedChars at h
  split at h
  · exact .inr (words c (List.mem_append_left _ h))
  · exact .inr (words c (List.mem_append_right _ (List.mem_cons_of_mem _ h)))
  · exact .inr (words c (List.mem_append_right _ h))
  · exact mem_fixedFinite h

/-- What is no digit and no mark does not occur in a number with decimal places. -/
theorem notMem_fixedChars {c : Char} (noDigit : isDigit c = false) (noMark : c ∉ fixedMarks)
    (places : Nat) (x : Float) : c ∉ fixedChars places x := by
  intro mem
  rcases mem_fixedChars mem with digit | mark
  · simp [noDigit] at digit
  · exact noMark mark

end Assay.Decimal
