import Assay.Report.Summary
import Assay.Suite.Basic
import Assay.Suite.Selection

/-!
# Running a suite

A run makes the output directory and a log directory for each selected task, runs the selected
tasks, and sums up their metrics in the order of the suite. When a directory cannot be made no task
is run. A run may also publish its summary, as a markdown and as a JSON file in the output
directory; that of a failed run is not published.
-/

namespace Assay.Suite

/-! ## Directories -/

/-- The log directory of a task. -/
def logDirectory (s : Suite m) (t : Task) : String :=
  Files.Path.join s.output t.name

/-- The selected tasks, in the order of the suite. -/
def selected (s : Suite m) (selection : Selection) : List Task :=
  s.tasks.filter fun t => selection.includes t.name

/-- Makes directories one after the other, up to the first that cannot be made. -/
def makeAll (tree : Files.Tree) : List String → Option Failure × Files.Tree
  | [] => (none, tree)
  | path :: rest =>
    match tree.makeDirectories path with
    | (none, tree) => makeAll tree rest
    | (some e, tree) =>
      (some ((Failure.of (.file e)).within ("Failed to create " ++ Text.quotedPath path)), tree)

/-- Makes the directories that a run writes into. -/
def prepare (s : Suite m) (selection : Selection) (tree : Files.Tree) :
    Option Failure × Files.Tree :=
  makeAll tree (s.output :: (s.selected selection).map s.logDirectory)

/-! ## Results -/

/-- Adds the results of tasks that succeeded to a register, in order. -/
def successes (outcomes : List (String × Except Failure β)) : Register β :=
  .ofList (outcomes.filterMap fun (name, outcome) =>
    outcome.toOption.map fun value => (name, value))

/-- The failures among outcomes, in order, with the names of their tasks. -/
def failures (outcomes : List (String × Except Failure β)) : List (String × Failure) :=
  outcomes.filterMap fun (name, outcome) =>
    match outcome with
    | .ok _ => none
    | .error f => some (name, f)

/-- Sums up the outcomes of tasks, in their order, and tells what is to be reported of them. -/
def collect (policy : FailurePolicy) (outcomes : List (String × Except Failure β)) :
    Except Failure (Register β) × List Event :=
  match policy with
  | .abort =>
    match failures outcomes with
    | [] => (.ok (successes outcomes), [])
    | (_, f) :: _ => (.error f, [])
  | .isolate =>
    (.ok (successes outcomes), (failures outcomes).map fun (name, f) => .taskFailed name f.message)

/-! ## Runs -/

/-- Concludes the runs of tasks one after the other: their outcomes by name, the files after them,
and what they reported. -/
def concludeAll [Arithmetic α] (s : Suite m) (tree : Files.Tree) :
    List (Task × List Attempt) →
      List (String × Except Failure (Register α)) × Files.Tree × List Event
  | [] => ([], tree, [])
  | (t, attempts) :: rest =>
    let run := t.conclude (s.logDirectory t) attempts tree
    let (outcomes, tree, events) := concludeAll s run.tree rest
    ((t.name, run.result) :: outcomes, tree, run.events ++ events)

/-- Concludes a run from the attempts of the selected tasks. -/
def conclude [Arithmetic α] (s : Suite m) (tree : Files.Tree)
    (attempts : List (Task × List Attempt)) : Run (Register (Register α)) :=
  let (outcomes, tree, events) := s.concludeAll tree attempts
  let (result, reported) := collect s.policy outcomes
  ⟨result, tree, events ++ reported⟩

/-- Runs the selected tasks. -/
def run [Arithmetic α] [Monad m] (s : Suite m) (clock : Clock m) (selection : Selection)
    (tree : Files.Tree) : m (Run (Register (Register α))) := do
  match s.prepare selection tree with
  | (some f, tree) => pure ⟨.error f, tree, []⟩
  | (none, tree) =>
    let attempts ← (s.selected selection).mapM fun t => do
      pure (t, ← t.attempts clock s.model)
    pure (s.conclude tree attempts)

/-! ## Publication -/

/-- The name of the markdown summary in the output directory. -/
def markdownFile : String := "eval_summary.md"

/-- The name of the JSON summary in the output directory. -/
def jsonFile : String := "eval_summary.json"

/-- Writes a text file into a directory. -/
def writeInto (directory name text : String) (tree : Files.Tree) : Except Failure Files.Tree :=
  let path := Files.Path.join directory name
  fileContext ("Failed to write " ++ Text.quotedPath path) (tree.writeText path text)

/-- Publishes the summary of a run that has succeeded: first the markdown, then the JSON file. -/
def publish (output : String) (run : Run Summary) : Run Summary :=
  match run.result with
  | .error _ => run
  | .ok summary =>
    match writeInto output markdownFile summary.markdown run.tree with
    | .error f => ⟨.error f, run.tree, run.events⟩
    | .ok tree =>
      match writeInto output jsonFile summary.toJson.pretty tree with
      | .error f => ⟨.error f, tree, run.events⟩
      | .ok tree => ⟨.ok summary, tree, run.events⟩

/-- Runs the selected tasks and publishes the summary. -/
def runAndPublish [Monad m] (s : Suite m) (clock : Clock m) (selection : Selection)
    (tree : Files.Tree) : m (Run Summary) := do
  pure (publish s.output (← s.run clock selection tree))

end Assay.Suite
