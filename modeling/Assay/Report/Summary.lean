import Assay.Register
import Assay.Decimal.Fixed
import Assay.Json.Printer
import Assay.Report.Grid

/-!
# Summaries of a suite

The metrics of each task, in the order of the tasks, and the three forms in which they are
published: a markdown text with one section for each task, a JSON document, and a grid for the
console with one record for each task and one column for each metric that any task has.
-/

namespace Assay

/-- The metrics of an instance or of a task. -/
abbrev Metrics := Register Float

/-- The metrics of each task. -/
abbrev Summary := Register Metrics

/-- Metrics as a JSON object in their own order. -/
def Metrics.toJson (m : Metrics) : Json :=
  .obj (m.entries.map fun (name, value) => (name, Json.ofFloat value))

namespace Summary

/-- Values are shown with three decimal places. -/
def valueText (x : Float) : String :=
  Decimal.fixed 3 x

/-- A summary as a JSON object in its own order. -/
def toJson (s : Summary) : Json :=
  .obj (s.entries.map fun (task, metrics) => (task, Metrics.toJson metrics))

/-! ## Markdown -/

/-- One bullet for each metric. -/
def bullets (metrics : Metrics) : List Char :=
  metrics.entries.flatMap fun (name, value) =>
    ['*', ' '] ++ name.toList ++ [':', ' '] ++ (valueText value).toList ++ ['\n']

/-- One section for each task. -/
def markdownChars (s : Summary) : List Char :=
  s.entries.flatMap fun (task, metrics) =>
    ['\n', '#', '#', ' '] ++ task.toList ++ ['\n', '\n'] ++ bullets metrics

/-- The markdown text of a summary. -/
def markdown (s : Summary) : String :=
  String.ofList (markdownChars s)

/-! ## Grid -/

/-- Every metric of any task, each once, in the order of its first appearance. -/
def columns (s : Summary) : List String :=
  (s.entries.flatMap fun (_, metrics) => metrics.names).eraseDups

/-- The cell of a metric: its value, or a dash when the task has no such metric. -/
def cell (metrics : Metrics) (column : String) : String :=
  match metrics.get? column with
  | some value => valueText value
  | none => "-"

/-- The header and one record for each task. -/
def records (s : Summary) : List (List String) :=
  ("task" :: s.columns) ::
    s.entries.map fun (task, metrics) => task :: s.columns.map (cell metrics)

/-- The grid of a summary and the number of its tasks. -/
def table (s : Summary) : String :=
  Report.grid s.records ++ "\n\nTasks: " ++ toString s.size ++ "\n"

end Summary

end Assay
