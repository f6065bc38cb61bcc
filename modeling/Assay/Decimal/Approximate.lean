/-!
# Decimal numbers as floating-point numbers

A significand of at most 64 bits, scaled by a power of ten. The significand is converted to the
nearest floating-point number and then multiplied or divided once by a power of ten, so the result
can be a neighbour of the nearest floating-point number.
-/

namespace Assay.Decimal

/-- The floating-point number nearest to a power of ten, for exponents up to 308. -/
def powerOfTen (e : Nat) : Float :=
  Float.ofScientific 1 false e

/-- Divides by `10 ^ e`. Beyond 308 one factor of `1e308` is divided out at a time; after `fuel` of
them, three being enough, nothing but zero is left. -/
def divide : Nat → Float → Nat → Float
  | 0, x, _ => x
  | fuel + 1, x, e =>
    if e ≤ 308 then x / powerOfTen e else divide fuel (x / powerOfTen 308) (e - 308)

/-- `significand * 10 ^ exponent`, or nothing when that is too large. -/
def approximate (significand : Nat) (exponent : Int) : Option Float :=
  let x := Float.ofNat significand
  if significand = 0 then some 0.0
  else if exponent < 0 then some (divide 3 x exponent.natAbs)
  else if exponent ≤ 308 then
    let scaled := x * powerOfTen exponent.natAbs
    if scaled.isFinite then some scaled else none
  else none

end Assay.Decimal
