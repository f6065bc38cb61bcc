import Assay.Report.Summary

/-!
# Expectations on metrics

Two checks for tests of a benchmark: a metric is not below a threshold, or not too far from an
expected value. Values are compared as floating-point numbers, so what is no number is neither below
a threshold nor too far from a value. A metric that is absent meets no expectation.
-/

namespace Assay

/-- Why a metric does not meet what was expected of it. -/
inductive Unmet where
  | missing (metric : String)
  | below (metric : String) (value least : Float)
  | missingInTask (metric task : String) (summary : Summary)
  | apart (metric task : String) (value expected : Float) (summary : Summary)

/-- The wording of an unmet expectation; those on a summary show its grid. -/
def Unmet.message : Unmet → String
  | .missing metric => "Metric `" ++ metric ++ "` missing from result"
  | .below metric value least =>
    "Evaluation failed: " ++ metric ++ " " ++ Summary.valueText value ++ " is below threshold " ++
      Summary.valueText least
  | .missingInTask metric task summary =>
    "No `" ++ metric ++ "` for task `" ++ task ++ "`\n" ++ summary.table
  | .apart metric task value expected summary =>
    "Evaluation failed: " ++ task ++ "." ++ metric ++ " is " ++ Summary.valueText value ++
      ", expected " ++ Summary.valueText expected ++ "\n" ++ summary.table

/-- Expects a metric that is not below `least`. -/
def Metrics.expectAtLeast (metrics : Metrics) (metric : String) (least : Float) :
    Except Unmet Unit :=
  match metrics.get? metric with
  | none => .error (.missing metric)
  | some value => if value < least then .error (.below metric value least) else .ok ()

/-- Expects a metric of a task that does not differ from `expected` by more than `tolerance`. -/
def Summary.expectClose (s : Summary) (task metric : String) (expected tolerance : Float) :
    Except Unmet Unit :=
  match (s.get? task).bind (·.get? metric) with
  | none => .error (.missingInTask metric task s)
  | some value =>
    if (value - expected).abs > tolerance then .error (.apart metric task value expected s)
    else .ok ()

end Assay
