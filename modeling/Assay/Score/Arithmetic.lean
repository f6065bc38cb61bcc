/-!
# The arithmetic of scores

Scores are computed in floating-point numbers and understood as rational numbers. The formulas are
written once, for any arithmetic with the few operations that they use.
-/

namespace Assay

/-- The operations that scores are computed with. -/
class Arithmetic (α : Type) extends Zero α, Neg α, Add α, Mul α, Div α, NatCast α, LT α where
  decidableLT : DecidableLT α

instance decidableLTOfArithmetic [Arithmetic α] : DecidableLT α := Arithmetic.decidableLT

/-- Floating-point arithmetic, in which scores are reported. -/
instance : Arithmetic Float where
  natCast := Float.ofNat
  decidableLT := inferInstance

/-- Exact arithmetic, in which scores are reasoned about. -/
instance : Arithmetic Rat where
  toZero := ⟨Rat.ofInt 0⟩
  toNeg := Rat.instNeg
  toAdd := Rat.instAdd
  toMul := Rat.instMul
  toDiv := Rat.instDiv
  toNatCast := Rat.instNatCast
  toLT := Rat.instLT
  decidableLT := Rat.instDecidableLt

end Assay
