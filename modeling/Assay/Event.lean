/-!
# Events of a run

What a run reports beside its result: warnings about single programs and metrics, and errors of
whole tasks that were left out of a report.
-/

namespace Assay

/-- Something worth telling the user about. -/
inductive Event where
  /-- A metric of the first instance is missing from a later one. -/
  | metricMissing (metric : String) (place : Nat)
  /-- The model gave no completion at all for a program. -/
  | noSamples (task program : String)
  /-- A completion is no JSON, also after its quotes were replaced. -/
  | unreadable (task program output error : String)
  /-- A prediction has another shape than the task declares. -/
  | misfit (task program expected reason : String)
  /-- A task failed and its siblings went on. -/
  | taskFailed (task error : String)
  deriving DecidableEq, Repr

/-- How serious an event is. -/
inductive Level where
  | warn
  | error
  deriving DecidableEq, Repr

namespace Event

/-- Only a failed task is an error. -/
def level : Event → Level
  | .taskFailed .. => .error
  | _ => .warn

/-- The message of an event. -/
def message : Event → String
  | .metricMissing .. => "metric missing from instance, counting as 0"
  | .noSamples .. => "model returned no samples"
  | .unreadable .. => "could not parse prediction"
  | .misfit .. => "prediction does not match declared type"
  | .taskFailed .. => "task failed, leaving it out of the report"

/-- The details of an event by name, in alphabetical order of the names. -/
def fields : Event → List (String × String)
  | .metricMissing metric place => [("instance", toString place), ("metric", metric)]
  | .noSamples task program => [("program", program), ("task", task)]
  | .unreadable task program output error =>
    [("error", error), ("output", output), ("program", program), ("task", task)]
  | .misfit task program expected reason =>
    [("expected", expected), ("program", program), ("reason", reason), ("task", task)]
  | .taskFailed task error => [("error", error), ("task", task)]

end Event

end Assay
