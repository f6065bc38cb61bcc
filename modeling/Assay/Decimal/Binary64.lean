/-!
# Binary floating-point numbers as exact values

A 64-bit floating-point word stands for a signed integer multiple of a power of two, for an
infinity, or for no number at all. Texts of floating-point numbers are computed from this exact
value with natural-number arithmetic only.
-/

namespace Assay.Decimal

/-- What a 64-bit floating-point word stands for. A finite word is `± mantissa * 2 ^ exponent`. -/
inductive Binary64 where
  | nan
  | infinite (negative : Bool)
  | finite (negative : Bool) (mantissa : Nat) (exponent : Int)
  deriving DecidableEq, Repr

namespace Binary64

/-- The bit before the fraction bits, which is set in every mantissa that is not minimal. -/
def leadingBit : Nat := 0x10000000000000

/-- Reads the fields of a word: one sign bit, eleven exponent bits, fifty-two fraction bits. -/
def ofBits (bits : UInt64) : Binary64 :=
  let word : Nat := bits.toNat
  let negative := decide (0x8000000000000000 ≤ word)
  let power : Nat := word / leadingBit % 2048
  let fraction : Nat := word % leadingBit
  if power = 2047 then
    if fraction = 0 then .infinite negative else .nan
  else if power = 0 then
    .finite negative fraction (-1074)
  else
    .finite negative (leadingBit + fraction) ((power : Int) - 1075)

/-- The exact value of a floating-point number. -/
def ofFloat (x : Float) : Binary64 :=
  ofBits x.toBits

/-- The power `base ^ e` for a non-negative exponent, and one for a negative one. -/
def upPower (base : Nat) (e : Int) : Nat :=
  Nat.pow base e.toNat

/-- The power `base ^ (-e)` for a negative exponent, and one for a non-negative one. -/
def downPower (base : Nat) (e : Int) : Nat :=
  Nat.pow base (-e).toNat

end Binary64

end Assay.Decimal
