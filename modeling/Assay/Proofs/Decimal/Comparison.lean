import Mathlib

/-!
# Comparing floating-point numbers

Floating-point numbers are compared as IEEE 754 has it: what is no number is neither less than
another nor at least as large. So a number that is not less than another is at least as large, or
one of the two is no number; and the distance of two numbers is no number if one of them is none, or
if they are the same infinity.
-/

namespace Assay.Decimal

open Float.Model

/-! ## Unpacked numbers -/

theorem sign_compare_swap (s t : UnpackedFloat.Sign) : compare t s = (compare s t).swap := by
  cases s <;> cases t <;> rfl

/-- Comparing in the other order gives the opposite. -/
theorem compare_swap (a b : UnpackedFloat) :
    b.compare a = (a.compare b).map Ordering.swap := by
  have order (e f : Int) (m n : Nat) :
      (compare f e).then (compare n m) = ((compare e f).then (compare m n)).swap := by
    rw [Ordering.swap_then, Int.compare_swap, Nat.compare_swap]
  cases a with
  | notANumber => cases b <;> rfl
  | infinity s =>
    cases b with
    | infinity t => exact congrArg some (sign_compare_swap s t)
    | _ => cases s <;> rfl
  | zero s =>
    cases b with
    | infinity t => cases t <;> rfl
    | finite t n f hn => cases t <;> rfl
    | _ => rfl
  | finite s m e hm =>
    cases b with
    | infinity t => cases s <;> cases t <;> rfl
    | finite t n f hn =>
      cases s with
      | negative =>
        cases t with
        | negative => exact congrArg some (congrArg Ordering.swap (order e f m n))
        | positive => rfl
      | positive =>
        cases t with
        | negative => rfl
        | positive => exact congrArg some (order e f m n)
    | _ => cases s <;> rfl

theorem isNaN_iff {u : UnpackedFloat} : u.isNaN = true ↔ u = .notANumber := by
  cases u <;> simp [UnpackedFloat.isNaN]

/-- Two numbers are comparable, and nothing else is. -/
theorem compare_eq_none_iff {a b : UnpackedFloat} :
    a.compare b = none ↔ a.isNaN = true ∨ b.isNaN = true := by
  rw [isNaN_iff, isNaN_iff]
  unfold UnpackedFloat.compare
  split <;> simp_all

/-! ## Packed numbers -/

theorem isNaN_unpack_iff {bits : BitVec Format.binary64.numBits} :
    (UnpackedFloat.unpack Format.binary64 bits).isNaN = true ↔
      UnpackedFloat.unpackExponent bits = -1#_ ∧ UnpackedFloat.unpackMantissa bits ≠ 0#_ := by
  unfold UnpackedFloat.unpack
  dsimp only
  split
  · split <;> simp_all [UnpackedFloat.isNaN]
  · split
    · split <;> simp_all [UnpackedFloat.isNaN]
    · simp_all [UnpackedFloat.isNaN]

/-- An exponent that fits is not the one that stands for infinities. -/
theorem ofNat_ne_last {exponent : Nat}
    (small : ¬ 2 ^ Format.binary64.exponentBits ≤ exponent + 1) :
    BitVec.ofNat Format.binary64.exponentBits exponent ≠ -1#_ := by
  have powers : 2 ^ Format.binary64.exponentBits = 2048 := by decide
  have ones : (-1#_ : BitVec Format.binary64.exponentBits).toNat = 2047 := by decide
  intro last
  have same := congrArg BitVec.toNat last
  rw [powers] at small
  rw [BitVec.toNat_ofNat, ones, powers, Nat.mod_eq_of_lt (by omega)] at same
  omega

/-- A number is one after it is packed, and nothing else is. -/
theorem isNaN_unpack_pack (u : UnpackedFloat) :
    (UnpackedFloat.unpack Format.binary64 (UnpackedFloat.pack Format.binary64 u)).isNaN =
      u.isNaN := by
  rw [Bool.eq_iff_iff, isNaN_unpack_iff]
  cases u with
  | notANumber => decide
  | infinity s => cases s <;> decide
  | zero s => cases s <;> decide
  | finite s m e hm =>
    refine iff_of_false ?_ (by simp [UnpackedFloat.isNaN])
    unfold UnpackedFloat.pack
    dsimp only
    split
    · rintro ⟨-, mantissa⟩
      exact mantissa UnpackedFloat.unpackMantissa_packComponents
    · next small =>
      split
      · rintro ⟨exponent, -⟩
        exact ofNat_ne_last small (UnpackedFloat.unpackExponent_packComponents.symm.trans exponent)
      · rintro ⟨exponent, -⟩
        exact absurd (UnpackedFloat.unpackExponent_packComponents.symm.trans exponent) (by decide)

/-- Rounding gives a number. -/
theorem isNaN_normalize (spec : Format) (mantissa exponent : Int) (sign : UnpackedFloat.Sign) :
    (UnpackedFloat.normalize spec mantissa exponent sign).isNaN = false := by
  have round (sign : UnpackedFloat.Sign) (m : Nat) :
      (UnpackedFloat.round spec sign m exponent).isNaN = false := by
    unfold UnpackedFloat.round UnpackedFloat.roundWithAccuracy
    dsimp only
    split <;> rfl
  unfold UnpackedFloat.normalize
  split
  · exact round ..
  · rfl
  · exact round ..

theorem isNaN_sub_unpacked_iff {a b : UnpackedFloat} :
    (UnpackedFloat.sub Format.binary64 a b).isNaN = true ↔
      a.isNaN = true ∨ b.isNaN = true ∨ a.isInf = true ∧ a.beq b = true := by
  cases a with
  | notANumber => cases b <;> simp [UnpackedFloat.sub, UnpackedFloat.isNaN]
  | infinity s =>
    cases b with
    | infinity t => cases s <;> cases t <;> decide
    | _ =>
      cases s <;> simp [UnpackedFloat.sub, UnpackedFloat.isNaN, UnpackedFloat.beq,
        UnpackedFloat.compare]
  | zero s =>
    cases b with
    | zero t => cases s <;> cases t <;> decide
    | _ => cases s <;> simp [UnpackedFloat.sub, UnpackedFloat.isNaN, UnpackedFloat.isInf]
  | finite s m e hm =>
    cases b with
    | finite t n f hn =>
      have rounded : (UnpackedFloat.sub Format.binary64 (.finite s m e hm)
          (.finite t n f hn)).isNaN = false := isNaN_normalize ..
      rw [rounded]
      simp [UnpackedFloat.isNaN, UnpackedFloat.isInf]
    | _ => simp [UnpackedFloat.sub, UnpackedFloat.isNaN, UnpackedFloat.isInf]

/-! ## Floating-point numbers -/

section
variable {x y : Float}

theorem lt_iff_compare : x < y ↔ x.toModel.unpack.compare y.toModel.unpack = some .lt := by
  show decide (x.toModel < y.toModel) = true ↔ _
  rw [decide_eq_true_iff]
  show (_ == _) = true ↔ _
  exact beq_iff_eq

theorem le_iff_compare :
    x ≤ y ↔ ∃ o, x.toModel.unpack.compare y.toModel.unpack = some o ∧ o.isLE = true := by
  show decide (x.toModel ≤ y.toModel) = true ↔ _
  rw [decide_eq_true_iff]
  exact Option.any_eq_true _ _

theorem not_comparable_iff :
    x.toModel.unpack.compare y.toModel.unpack = none ↔ x.isNaN = true ∨ y.isNaN = true :=
  compare_eq_none_iff

/-- A number that is not less than another is at least as large, if both are numbers. -/
theorem not_lt_iff : ¬ x < y ↔ y ≤ x ∨ x.isNaN = true ∨ y.isNaN = true := by
  rw [lt_iff_compare, le_iff_compare, compare_swap x.toModel.unpack, ← not_comparable_iff]
  cases x.toModel.unpack.compare y.toModel.unpack with
  | none => simp
  | some o => cases o <;> simp

theorem isNumber_of_le (le : x ≤ y) : ¬ (x.isNaN = true ∨ y.isNaN = true) := by
  obtain ⟨o, compared, -⟩ := le_iff_compare.mp le
  rw [← not_comparable_iff, compared]
  exact Option.some_ne_none o

theorem isNaN_abs (x : Float) : x.abs.isNaN = x.isNaN := by
  show (UnpackedFloat.unpack Format.binary64
    (UnpackedFloat.pack Format.binary64 x.toModel.unpack.abs)).isNaN = x.toModel.unpack.isNaN
  rw [isNaN_unpack_pack]
  cases x.toModel.unpack <;> rfl

/-- Two numbers have a difference unless they are the same infinity. -/
theorem isNaN_sub_iff :
    (x - y).isNaN = true ↔ x.isNaN = true ∨ y.isNaN = true ∨ x.isInf = true ∧ (x == y) = true := by
  show (UnpackedFloat.unpack Format.binary64 (UnpackedFloat.pack Format.binary64
    (UnpackedFloat.sub Format.binary64 x.toModel.unpack y.toModel.unpack))).isNaN = true ↔ _
  rw [isNaN_unpack_pack]
  exact isNaN_sub_unpacked_iff

end

end Assay.Decimal
