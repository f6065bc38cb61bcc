import Assay.Score.Average
import Assay.Task.Attempt
import Assay.Task.Log

/-!
# Running a task

A run puts every program of a task to a model, also after one has failed, writes the log of all
attempts in the order of the programs, and averages the scores of the predictions. The failure of
a run is that of the log, or else that of the first program that failed.
-/

namespace Assay

/-- A task with its programs. At most `maxConcurrency` calls to the model may be open at once; the
results are the same whatever the limit, as each attempt concerns one program only. -/
structure Task where
  config : TaskConfig
  programs : List Program
  maxConcurrency : Option Nat

/-- What came of a run: its result, the files after it, and what it reported. -/
structure Run (β : Type) where
  result : Except Failure β
  tree : Files.Tree
  events : List Event

namespace Task

/-- The name of a task. -/
def name (t : Task) : String := t.config.name

/-- The calls to the model that may be open at once: all of them if there is no limit, and always
at least one. -/
def callLimit (t : Task) : Nat :=
  max (t.maxConcurrency.getD t.programs.length) 1

/-- The task of a description, still without programs. -/
def ofDescription (d : Description) : Except ConfigError Task := do
  .ok ⟨← d.validate, [], none⟩

/-- Puts each program to a model, in their order. -/
def attempts [Monad m] (t : Task) (clock : Clock m) (model : Model m) : m (List Attempt) :=
  t.programs.mapM fun p => p.attempt t.config clock model

/-- The scores of the programs, or the failure of the first one that failed. -/
def scores [Arithmetic α] (t : Task) (attempts : List Attempt) :
    Except Failure (List (Register α)) :=
  (t.programs.zip attempts).mapM fun (p, attempt) => do
    let prediction ← inContext ("Task `" ++ t.name ++ "` failed") attempt.outcome
    .ok (t.config.metric.score p.gold prediction)

/-- Concludes a run from its attempts: writes the log into a directory and averages the scores. -/
def conclude [Arithmetic α] (t : Task) (directory : String) (attempts : List Attempt)
    (tree : Files.Tree) : Run (Register α) :=
  let events := attempts.flatMap Attempt.events
  match Log.write tree directory (attempts.map Attempt.trace) with
  | .error f => ⟨.error (f.within ("Task `" ++ t.name ++ "`: could not write generation log")),
      tree, events⟩
  | .ok tree =>
    match t.scores attempts with
    | .error f => ⟨.error f, tree, events⟩
    | .ok scores => ⟨.ok (macroAverage scores), tree, events ++ averageEvents scores⟩

/-- Runs a task. -/
def run [Arithmetic α] [Monad m] (t : Task) (clock : Clock m) (model : Model m)
    (directory : String) (tree : Files.Tree) : m (Run (Register α)) := do
  let attempts ← t.attempts clock model
  pure (t.conclude directory attempts tree)

end Task

end Assay
