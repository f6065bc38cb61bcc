import Assay.Event
import Assay.Register
import Assay.Score.Arithmetic

/-!
# The mean over instances

The metrics of several instances are averaged one by one. The first instance decides which metrics
there are; an instance without one of them counts as zero there, with a warning, and metrics that
only later instances have are left out.
-/

namespace Assay

/-- The sum of a list from left to right, beginning at negative zero: that is zero in exact
arithmetic, and in floating-point arithmetic it keeps the sign of a sum of negative zeros. -/
def sumFromLeft [Arithmetic α] (xs : List α) : α :=
  xs.foldl (· + ·) (-0)

/-- The mean of a metric over all instances. -/
def meanOf [Arithmetic α] (results : List (Register α)) (metric : String) : α :=
  sumFromLeft (results.map (fun r => (r.get? metric).getD 0)) / (results.length : α)

/-- A warning for each instance that lacks a metric. -/
def missingFrom (results : List (Register α)) (metric : String) : List Event :=
  results.zipIdx.filterMap fun (r, place) =>
    if (r.get? metric).isNone then some (.metricMissing metric place) else none

/-- The unweighted mean of every metric of the first instance. -/
def macroAverage [Arithmetic α] : List (Register α) → Register α
  | [] => .empty
  | first :: rest =>
    .ofList (first.names.map fun metric => (metric, meanOf (first :: rest) metric))

/-- The warnings of an average: one for each metric of the first instance and each instance that
lacks it. -/
def averageEvents : List (Register α) → List Event
  | [] => []
  | first :: rest => first.names.flatMap (missingFrom (first :: rest))

end Assay
