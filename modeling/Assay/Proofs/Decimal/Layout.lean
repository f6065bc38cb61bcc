import Assay.Decimal.Shortest
import Assay.Proofs.Decimal.Digits

/-!
# The characters of decimal numbers

Whatever its layout, the text of a positive number begins with a digit and goes on with digits, a
point, a sign and the letter of an exponent. That is all that is said of it here: which digits they
are is not needed to tell where a number ends.
-/

namespace Assay.Decimal

/-- The characters that numbers are written with. -/
def isNumeral (c : Char) : Bool :=
  isDigit c || c == '-' || c == '+' || c == '.' || c == 'e'

/-- A text that begins with a digit and goes on with the characters of numbers. -/
def Numeral (cs : List Char) : Prop :=
  ∃ d rest, cs = d :: rest ∧ isDigit d = true ∧ ∀ c ∈ rest, isNumeral c = true

theorem isNumeral_of_isDigit {c : Char} (h : isDigit c = true) : isNumeral c = true := by
  simp [isNumeral, h]

theorem Numeral.append {cs more : List Char} (h : Numeral cs)
    (others : ∀ c ∈ more, isNumeral c = true) : Numeral (cs ++ more) := by
  obtain ⟨d, rest, rfl, digit, inside⟩ := h
  refine ⟨d, rest ++ more, List.cons_append, digit, ?_⟩
  intro c mem
  rcases List.mem_append.mp mem with mem | mem
  · exact inside c mem
  · exact others c mem

/-- Digits, one at least, are a numeral. -/
theorem numeral_of_digits {ds : List Char} (digits : ∀ c ∈ ds, isDigit c = true)
    (nonempty : ds ≠ []) : Numeral ds := by
  obtain ⟨d, rest, rfl⟩ := List.exists_cons_of_ne_nil nonempty
  obtain ⟨first, others⟩ := List.forall_mem_cons.mp digits
  exact ⟨d, rest, rfl, first, fun c mem => isNumeral_of_isDigit (others c mem)⟩

theorem numeral_digits (n : Nat) : Numeral (digits n) :=
  numeral_of_digits (isDigit_of_mem_digits n) (digits_ne_nil n)

/-! ## Layouts -/

section
variable {ds : List Char} (digits : ∀ c ∈ ds, isDigit c = true) (nonempty : ds ≠ [])
include digits nonempty

theorem numeral_positional (top : Int) : Numeral (positional ds top) := by
  have zeros (k : Nat) : ∀ c ∈ List.replicate k '0', isNumeral c = true := by
    intro c mem
    rw [(List.mem_replicate.mp mem).2]
    decide
  have all : ∀ c ∈ ds, isNumeral c = true := fun c mem => isNumeral_of_isDigit (digits c mem)
  unfold positional
  split
  · refine ⟨'0', _, rfl, by decide, ?_⟩
    intro c mem
    rcases List.mem_cons.mp mem with rfl | mem
    · decide
    rcases List.mem_append.mp mem with mem | mem
    · exact zeros _ c mem
    · exact all c mem
  dsimp only
  split
  · refine ((numeral_of_digits digits nonempty).append (zeros _)).append ?_
    exact List.all_eq_true.mp rfl
  · -- the point stands after the first digit at the earliest
    have front : ds.take (top.toNat + 1) ≠ [] := by
      obtain ⟨d, rest, rfl⟩ := List.exists_cons_of_ne_nil nonempty
      exact List.cons_ne_nil _ _
    refine (numeral_of_digits (fun c mem => digits c (List.mem_of_mem_take mem)) front).append ?_
    intro c mem
    rcases List.mem_cons.mp mem with rfl | mem
    · decide
    · exact all c (List.mem_of_mem_drop mem)

theorem numeral_scientific (top : Int) : Numeral (scientific ds top) := by
  have front : ds.take 1 ≠ [] := by
    obtain ⟨d, rest, rfl⟩ := List.exists_cons_of_ne_nil nonempty
    exact List.cons_ne_nil _ _
  have lead := numeral_of_digits (fun c mem => digits c (List.mem_of_mem_take mem)) front
  have fraction : ∀ c ∈ (if ds.length ≤ 1 then [] else '.' :: ds.drop 1), isNumeral c = true := by
    intro c mem
    split at mem
    · cases mem
    rcases List.mem_cons.mp mem with rfl | mem
    · decide
    · exact isNumeral_of_isDigit (digits c (List.mem_of_mem_drop mem))
  refine (lead.append fraction).append ?_
  intro c mem
  rcases List.mem_cons.mp mem with rfl | mem
  · decide
  rcases List.mem_cons.mp mem with rfl | mem
  · split <;> decide
  · exact isNumeral_of_isDigit (isDigit_of_mem_digits _ c mem)

end

/-- The text of a finite number is a numeral, with a minus sign before it if it is negative. -/
theorem shortestFinite_numeral (layout : Layout) (negative : Bool) (mantissa : Nat)
    (exponent : Int) :
    ∃ cs, Numeral cs ∧ shortestFinite layout negative mantissa exponent =
      (if negative then ['-'] else []) ++ cs := by
  refine ⟨_, ?_, rfl⟩
  split
  · exact ⟨'0', ['.', '0'], rfl, by decide, List.all_eq_true.mp rfl⟩
  · unfold Scaled.layOut
    dsimp only
    split
    · exact numeral_positional (isDigit_of_mem_digits _) (digits_ne_nil _) _
    · exact numeral_scientific (isDigit_of_mem_digits _) (digits_ne_nil _) _

/-! ## Finite words -/

namespace Binary64

open Float.Model

/-- The exponent bits of a word are the power that `ofBits` reads. -/
theorem toNat_unpackExponent (bits : UInt64) :
    (@UnpackedFloat.unpackExponent Format.binary64 bits.toBitVec).toNat =
      bits.toNat / leadingBit % 2048 := by
  show (BitVec.cast _ (BitVec.extractLsb 62 52 bits.toBitVec)).toNat = _
  rw [BitVec.toNat_cast, BitVec.extractLsb_toNat, Nat.shiftRight_eq_div_pow]
  rfl

/-- A finite floating-point number has an exact value. -/
theorem ofFloat_of_isFinite {x : Float} (finite : x.isFinite = true) :
    ∃ negative mantissa exponent, ofFloat x = .finite negative mantissa exponent := by
  have power : x.toBits.toNat / leadingBit % 2048 ≠ 2047 := by
    intro all
    have ones : @UnpackedFloat.unpackExponent Format.binary64 x.toBits.toBitVec = -1#11 :=
      BitVec.eq_of_toNat_eq ((toNat_unpackExponent x.toBits).trans all)
    have infinite : x.isFinite = false := by
      show UnpackedFloat.isFinite (UnpackedFloat.unpack Format.binary64 x.toBits.toBitVec) = false
      unfold UnpackedFloat.unpack
      rw [if_pos ones]
      split <;> rfl
    rw [finite] at infinite
    cases infinite
  unfold ofFloat ofBits
  dsimp only
  rw [if_neg power]
  split
  · exact ⟨_, _, _, rfl⟩
  · exact ⟨_, _, _, rfl⟩

end Binary64

end Assay.Decimal
