import Assay.Register
import Assay.Score.Arithmetic

/-!
# Precision, recall and their harmonic mean

Two collections are compared as sets: precision is the part of the predicted items that are
right, recall the part of the right items that were predicted. An empty side scores zero.
-/

namespace Assay

/-- The three numbers of one comparison. -/
structure Prf (α : Type) where
  precision : α
  recalled : α
  f1 : α
  deriving Repr

namespace Prf

/-- The score of `correct` common items among `predicted` and `actual` ones. -/
def ofCounts [Arithmetic α] (correct predicted actual : Nat) : Prf α :=
  let precision : α := if predicted = 0 then 0 else (correct : α) / (predicted : α)
  let recalled : α := if actual = 0 then 0 else (correct : α) / (actual : α)
  let f1 : α :=
    if 0 < precision + recalled then
      ((2 : Nat) : α) * precision * recalled / (precision + recalled)
    else 0
  ⟨precision, recalled, f1⟩

/-- The score as named metrics, in their fixed order. -/
def metrics (p : Prf α) : Register α :=
  .ofList [("precision", p.precision), ("recall", p.recalled), ("f1", p.f1)]

end Prf

/-- The number of items of a set that are in another one. -/
def commonCount [DecidableEq τ] (xs ys : List τ) : Nat :=
  (xs.filter (fun x => decide (x ∈ ys))).length

/-- Compares two collections as sets; repetitions and order do not count. -/
def overlapScore [Arithmetic α] [DecidableEq τ] (predicted actual : List τ) : Prf α :=
  let predicted := predicted.eraseDups
  let actual := actual.eraseDups
  .ofCounts (commonCount predicted actual) predicted.length actual.length

end Assay
