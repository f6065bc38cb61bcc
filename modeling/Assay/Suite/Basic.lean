import Assay.Failure
import Assay.Task.Run

/-!
# Suites

A suite is a list of tasks for one model, with a directory for its output. The name of a task is
also the name of the directory of its log, so the names of a suite are identifiers and pairwise
different. A suite is put together from parts, and the first fault of the parts is reported.
-/

namespace Assay

/-- What a suite does about a task that fails. -/
inductive FailurePolicy where
  /-- The whole run fails, once every task has been run. -/
  | abort
  /-- The failure is reported and the task is left out of the summary. -/
  | isolate
  deriving DecidableEq, Repr

namespace Suite

/-! ## Names -/

/-- Whether a character may begin an identifier. -/
def beginsIdentifier (c : Char) : Bool :=
  c.isAlpha || c == '_'

/-- Whether a character may stand in an identifier. -/
def inIdentifier (c : Char) : Bool :=
  beginsIdentifier c || Decimal.isDigit c

/-- Whether a text consists of ASCII letters, digits and underscores and does not begin with a
digit. -/
def isIdentifier (name : String) : Bool :=
  match name.toList with
  | [] => false
  | c :: rest => beginsIdentifier c && rest.all inIdentifier

/-- The fault of the first name that was there before or is no identifier, if there is one. -/
def nameFault (seen : List String) : List String → Option ConfigError
  | [] => none
  | name :: rest =>
    if seen.contains name then some (.duplicateTask name)
    else if isIdentifier name then nameFault (name :: seen) rest
    else some (.invalidTaskName name)

end Suite

/-- Tasks for one model. -/
structure Suite (m : Type → Type) where
  model : Model m
  tasks : List Task
  output : String
  policy : FailurePolicy
  wellNamed : Suite.nameFault [] (tasks.map Task.name) = none

namespace Suite

/-! ## Composition -/

/-- What a suite is made of, as far as it is known. -/
structure Parts (m : Type → Type) where
  model : Option (Model m)
  tasks : List Task
  output : Option String
  policy : FailurePolicy

/-- No parts at all. -/
def Parts.empty : Parts m := ⟨none, [], none, .abort⟩

/-- The suite of some parts. -/
def build (parts : Parts m) : Except ConfigError (Suite m) := do
  let some model := parts.model | .error (.missingField "model")
  let some output := parts.output | .error (.missingField "output_dir")
  match h : nameFault [] (parts.tasks.map Task.name) with
  | some fault => .error fault
  | none => .ok ⟨model, parts.tasks, output, parts.policy, h⟩

/-- The suite of some tasks, with the policy to abort. -/
def ofTasks (tasks : List Task) (model : Model m) (output : String) :
    Except ConfigError (Suite m) :=
  build ⟨some model, tasks, some output, .abort⟩

end Suite

end Assay
