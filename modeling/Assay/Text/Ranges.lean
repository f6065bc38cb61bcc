/-!
# Ranges of characters

Membership of a character in a table of ranges of code points, both ends included.
-/

namespace Assay.Text

/-- A table of ranges of code points, in ascending order. -/
abbrev Ranges := List (Nat × Nat)

/-- Whether a character lies in one of the ranges. -/
def Ranges.has (table : Ranges) (c : Char) : Bool :=
  table.any fun (first, last) => decide (first ≤ c.toNat ∧ c.toNat ≤ last)

end Assay.Text
