import Assay.Decimal.Natural
import Assay.Decimal.Binary64

/-!
# Fixed number of decimal places

A floating-point number written with a given number of decimal places. The exact binary value is
rounded, and a value half way between two neighbours goes to the one whose last digit is even.
-/

namespace Assay.Decimal

/-- The natural number nearest to `num / den`, the even one of two that are equally near. -/
def roundDiv (num den : Nat) : Nat :=
  let low := num / den
  let twice := 2 * (num % den)
  if twice < den then low
  else if den < twice then low + 1
  else if low % 2 = 0 then low
  else low + 1

/-- `± mantissa * 2 ^ exponent` with exactly `places` digits after the point; at least one. -/
def fixedFinite (places : Nat) (negative : Bool) (mantissa : Nat) (exponent : Int) : List Char :=
  let scaled := roundDiv (mantissa * Binary64.upPower 2 exponent * Nat.pow 10 places)
    (Binary64.downPower 2 exponent)
  let ds := padded (places + 1) scaled
  let whole := ds.length - places
  (if negative then ['-'] else []) ++ ds.take whole ++ '.' :: ds.drop whole

/-- A floating-point number with `places` decimal places; `NaN`, `inf` and `-inf` for the rest. -/
def fixedChars (places : Nat) (x : Float) : List Char :=
  match Binary64.ofFloat x with
  | .nan => ['N', 'a', 'N']
  | .infinite false => ['i', 'n', 'f']
  | .infinite true => ['-', 'i', 'n', 'f']
  | .finite negative mantissa exponent => fixedFinite places negative mantissa exponent

/-- `fixedChars` as text. -/
def fixed (places : Nat) (x : Float) : String :=
  String.ofList (fixedChars places x)

end Assay.Decimal
