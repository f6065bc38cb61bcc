import Assay.Model.Choice
import Assay.Suite.Basic

/-!
# Run configurations

A YAML document tells which tasks are run, with which model, where the output goes, and what
happens when a task fails. Everything in it may be left out.
-/

namespace Assay

/-- The name of a policy. -/
def FailurePolicy.name : FailurePolicy → String
  | .abort => "abort"
  | .isolate => "isolate"

/-- The policy with a name. -/
def FailurePolicy.ofName (name : String) : Except Yaml.Problem FailurePolicy :=
  if name = "abort" then .ok .abort
  else if name = "isolate" then .ok .isolate
  else .error ("unknown variant `" ++ name ++ "`")

/-- The policy that a node names, by its text or by its tag. -/
def FailurePolicy.ofYaml : Yaml.Decoder FailurePolicy := fun node => do
  match ← node.follow with
  | .scalar style tag text =>
    match Yaml.variantTag? tag with
    | none => ofName text
    | some name =>
      if style == .plain && (text = "" || Yaml.isNullWord text) then ofName name
      else throw "expected nothing after the tag"
  | _ => throw "expected a name"

/-- The settings of a run. -/
structure RunConfig where
  tasksDirectory : String
  outputDirectory : Option String
  /-- The names of the tasks to run; all tasks if there are none. -/
  tasks : Option (List String)
  model : ModelChoice
  policy : FailurePolicy
  maxConcurrency : Option Nat
  deriving DecidableEq, Repr

namespace RunConfig

/-- Where tasks are unless a configuration says otherwise. -/
def defaultTasksDirectory : String := "tasks"

/-- The settings of a run that has none of its own. -/
def standard : RunConfig :=
  ⟨defaultTasksDirectory, none, none, .null, .abort, none⟩

/-- The settings as a JSON object. -/
def toJson (c : RunConfig) : Json :=
  .obj [
    ("tasks_directory", .str c.tasksDirectory),
    ("output_directory", (c.outputDirectory.map .str).getD .null),
    ("tasks", (c.tasks.map fun names => .arr (names.map .str)).getD .null),
    ("model", c.model.toJson),
    ("failure_policy", .str c.policy.name),
    ("max_concurrency", (c.maxConcurrency.map fun n => .num (.int n)).getD .null)]

open Yaml in
/-- The settings that a YAML text describes. -/
def ofYaml (text : String) : Except Yaml.Problem RunConfig :=
  ofRecord text fun entries => return {
    tasksDirectory := ← withDefault entries "tasks_directory" Node.text defaultTasksDirectory
    outputDirectory := ← withDefault entries "output_directory" (Node.optional Node.text) none
    tasks := ← withDefault entries "tasks" (Node.optional (Node.list Node.text)) none
    model := ← withDefault entries "model" ModelChoice.ofYaml .null
    policy := ← withDefault entries "failure_policy" FailurePolicy.ofYaml .abort
    maxConcurrency := ← withDefault entries "max_concurrency" (Node.optional Node.natural) none }

/-- Loads the settings in a file. -/
def load (tree : Files.Tree) (path : String) : Except Failure RunConfig := do
  let text ← fileContext ("Failed to read " ++ Text.quotedPath path) (tree.readText path)
  inContext ("Invalid config in " ++ Text.quotedPath path)
    ((ofYaml text).mapError fun problem => .of (.yaml problem))

end RunConfig

end Assay
