import Assay.Decimal.Natural
import Assay.Decimal.Binary64

/-!
# The fewest digits that read back

Every finite floating-point number other than zero is the nearest one to a whole interval of real
numbers. Among the decimal numbers in that interval the shortest writing has the fewest digits;
of several it is the one nearest to the exact value, and of two equally near the one with an even
last digit. For each number of digits it is enough to look at the two neighbours of the exact
value on the grid of decimal numbers with that many digits.
-/

namespace Assay.Decimal

/-- The decimal number `coefficient * 10 ^ exponent`. -/
structure Scaled where
  coefficient : Nat
  exponent : Int
  deriving DecidableEq, Repr

namespace Scaled

/-- The largest `e` with `10 ^ e ≤ m * 2 ^ q`, for a positive `m`. The estimate from the number of
binary digits is off by at most one. -/
def magnitude (m : Nat) (q : Int) : Int :=
  let guess := Int.fdiv ((m.log2 + q) * 1233) 4096
  let below (e : Int) : Bool :=
    decide (Binary64.upPower 10 e * Binary64.downPower 2 q ≤
      m * Binary64.upPower 2 q * Binary64.downPower 10 e)
  if below (guess + 1) then guess + 1 else if below guess then guess else guess - 1

/-- Looks for a neighbour of `value / unit` between `low / unit` and `high / unit`, ends included
when `closed`. -/
def neighbour (value low high unit : Nat) (closed : Bool) : Option Nat :=
  let down := value / unit
  let inside (d : Nat) : Bool :=
    if closed then decide (low ≤ d * unit ∧ d * unit ≤ high)
    else decide (low < d * unit ∧ d * unit < high)
  match inside down, inside (down + 1) with
  | true, true =>
    if 2 * value < (2 * down + 1) * unit then some down
    else if (2 * down + 1) * unit < 2 * value then some (down + 1)
    else if down % 2 = 0 then some down
    else some (down + 1)
  | true, false => some down
  | false, true => some (down + 1)
  | false, false => none

/-- Removes up to `fuel` factors of ten from the coefficient. -/
def strip : Nat → Scaled → Scaled
  | 0, s => s
  | fuel + 1, s =>
    if s.coefficient ≠ 0 ∧ s.coefficient % 10 = 0 then
      strip fuel ⟨s.coefficient / 10, s.exponent + 1⟩
    else s

/-- Tries the grids of `count`, `count + 1`, ... digits. Seventeen digits always suffice. -/
def search (m : Nat) (q top : Int) (tight : Bool) : Nat → Nat → Scaled
  | 0, _ => ⟨m, q⟩
  | fuel + 1, count =>
    let exponent := top - count + 1
    let scale := Binary64.upPower 2 q * Binary64.downPower 10 exponent
    let unit := 4 * Binary64.downPower 2 q * Binary64.upPower 10 exponent
    let low := (4 * m - (if tight then 1 else 2)) * scale
    let high := (4 * m + 2) * scale
    match neighbour (4 * m * scale) low high unit (m % 2 == 0) with
    | some d => strip 18 ⟨d, exponent⟩
    | none => search m q top tight fuel (count + 1)

/-- The shortest decimal number that reads back as `m * 2 ^ q`, for a positive `m`. The interval is
narrower below a power of two, unless it is the smallest exponent. -/
def shortest (m : Nat) (q : Int) : Scaled :=
  search m q (magnitude m q) (decide (m = Binary64.leadingBit ∧ -1074 < q)) 17 1

end Scaled

/-! ## Layout -/

/-- Where positional notation ends and how an exponent is written. -/
structure Layout where
  /-- The smallest exponent of the first digit that is written positionally. -/
  leastPositional : Int
  /-- The smallest exponent of the first digit that is no longer written positionally. -/
  firstScientific : Int

/-- Digits `d₀ d₁ ...` with the point after the digit of exponent zero; always with a fraction. -/
def positional (ds : List Char) (top : Int) : List Char :=
  if top < 0 then
    '0' :: '.' :: (List.replicate ((-top).toNat - 1) '0' ++ ds)
  else
    let whole := top.toNat + 1
    if ds.length ≤ whole then
      ds ++ List.replicate (whole - ds.length) '0' ++ ['.', '0']
    else
      ds.take whole ++ '.' :: ds.drop whole

/-- Digits `d₀.d₁...e±x`, without a point when there is one digit only. -/
def scientific (ds : List Char) (top : Int) : List Char :=
  ds.take 1 ++ (if ds.length ≤ 1 then [] else '.' :: ds.drop 1) ++
    'e' :: (if top < 0 then '-' else '+') :: digits top.natAbs

/-- A positive finite number in its shortest writing under a layout. -/
def Scaled.layOut (layout : Layout) (s : Scaled) : List Char :=
  let ds := digits s.coefficient
  let top := s.exponent + (ds.length : Int) - 1
  if layout.leastPositional ≤ top ∧ top < layout.firstScientific then
    positional ds top
  else
    scientific ds top

/-- The shortest writing of a finite number, with its sign; zero is `0.0`. -/
def shortestFinite (layout : Layout) (negative : Bool) (mantissa : Nat) (exponent : Int) :
    List Char :=
  (if negative then ['-'] else []) ++
    if mantissa = 0 then ['0', '.', '0']
    else (Scaled.shortest mantissa exponent).layOut layout

end Assay.Decimal
