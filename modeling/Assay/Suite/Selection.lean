import Assay.Sorted

/-!
# Selections

Which tasks of a suite are run: all of them, or those with certain names. Names that no task has
select nothing.
-/

namespace Assay

/-- Which tasks are run. -/
inductive Selection where
  | all
  | only (names : List String)
  deriving DecidableEq, Repr

namespace Selection

/-- The selection of some names, or of everything if there are none to choose from. -/
def ofNames : Option (List String) → Selection
  | some names => .only names
  | none => .all

/-- Whether a task is selected. -/
def includes : Selection → String → Bool
  | .all, _ => true
  | .only names, name => names.contains name

/-- The selected names, each once, in ascending order; none when everything is selected. -/
def names : Selection → List String
  | .all => []
  | .only names => sorted (fun a b => decide (a < b)) names.eraseDups

end Selection

end Assay
