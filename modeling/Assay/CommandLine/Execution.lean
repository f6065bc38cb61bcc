import Assay.CommandLine.Arguments
import Assay.Suite.Run
import Assay.Task.Load

/-!
# Executing commands

What a command prints and does to the files. A run resolves its settings, loads the tasks, makes
the model and the suite, and only then begins to run tasks; a failure on the way leaves the files as
they were.
-/

namespace Assay.CommandLine

/-- What a command finds around it. -/
structure Surroundings (m : Type → Type) where
  clock : Clock m
  transport : Http.Transport m
  environment : String → Option String

/-- What came of a command. -/
structure Finish where
  result : Except Failure Unit
  printed : String
  tree : Files.Tree
  events : List Event

/-- The end of a command that failed before it did anything. -/
def Finish.failed (f : Failure) (tree : Files.Tree) : Finish :=
  ⟨.error f, "", tree, []⟩

/-! ## Runs -/

/-- The suite that some settings describe, with its tasks loaded. -/
def suiteOf [Monad m] (around : Surroundings m) (config : RunConfig) (tree : Files.Tree) :
    Except Failure (Suite m) := do
  let some output := config.outputDirectory
    | .error (.note "--output-directory must be set (or `output_directory` in --config)")
  let tasks ← Task.loadAll tree config.tasksDirectory
  let tasks := tasks.map fun t => { t with maxConcurrency := config.maxConcurrency }
  let model ← config.model.build around.environment around.transport
  configured (Suite.build ⟨some model, tasks, some output, config.policy⟩)

/-- Runs the tasks that some settings select, and prints the grid of the summary. -/
def runSuite [Monad m] (around : Surroundings m) (config : RunConfig) (tree : Files.Tree) :
    m Finish := do
  match suiteOf around config tree with
  | .error f => pure (.failed f tree)
  | .ok suite =>
    let run ← suite.runAndPublish around.clock (.ofNames config.tasks) tree
    match run.result with
    | .error f => pure ⟨.error f, "", run.tree, run.events⟩
    | .ok summary => pure ⟨.ok (), summary.table ++ "\n", run.tree, run.events⟩

/-! ## Listings -/

/-- The line of a task in a listing. -/
def listLine (t : Task) : String :=
  String.intercalate "\t" [t.config.name, t.config.language.name, t.config.metric.name,
    toString t.programs.length ++ " programs", t.config.description] ++ "\n"

/-- Lists the tasks of a directory. -/
def listTasks (directory : String) (tree : Files.Tree) : Finish :=
  match Task.loadAll tree directory with
  | .error f => .failed f tree
  | .ok tasks => ⟨.ok (), String.join (tasks.map listLine), tree, []⟩

/-! ## Commands -/

/-- Executes a command. -/
def Command.execute [Monad m] (around : Surroundings m) (command : Command) (tree : Files.Tree) :
    m Finish :=
  match command with
  | .list directory => pure (listTasks directory tree)
  | .run options =>
    match options.resolve tree with
    | .error f => pure (.failed f tree)
    | .ok config => runSuite around config tree

/-! ## Reports -/

/-- A text whose lines after the first are led by blanks. -/
def indented (blanks : Nat) (text : String) : String :=
  String.intercalate ("\n" ++ String.ofList (List.replicate blanks ' ')) (text.splitOn "\n")

/-- The causes below the outermost one: a single cause is indented, several are numbered. -/
def causeLines : List Cause → List String
  | [] => []
  | [cause] => ["    " ++ indented 4 cause.message]
  | causes => causes.zipIdx.map fun (cause, i) =>
      let number := (Nat.toDigits 10 i)
      String.ofList (List.replicate (5 - number.length) ' ' ++ number) ++ ": " ++
        indented 7 cause.message

/-- What is told of a failure when the program ends with it. -/
def errorReport (f : Failure) : String :=
  let causes :=
    match causeLines f.rest with
    | [] => ""
    | lines => "\n\nCaused by:\n" ++ String.intercalate "\n" lines
  "Error: " ++ f.outermost.message ++ causes ++ "\n"

/-- The exit code of arguments that are no command; asking for help is no fault. -/
def UsageError.exitCode : UsageError → Nat
  | .displayHelp => 0
  | _ => 2

end Assay.CommandLine
