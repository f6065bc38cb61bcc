import Assay.Suite.Run
import Assay.Task.Schedule

/-!
# Runs of a suite in any order of tasks

The selected tasks are jobs that are all open at once, and each may be done at any time. They share
the files and the reports: a task that is done has written its log and reported its events. What a
task may come to is given by a relation `Runs`, so that the same schedules tell of the tasks of this
library and of tasks of any other kind. `Ends` tells how a run of the suite may end.
-/

namespace Assay.Suite

/-- What the tasks of a run share: which of them were begun, the files, and what was reported. -/
structure World where
  begun : List Task
  tree : Files.Tree
  events : List Event

/-- The runs of tasks as jobs. -/
def work (tasks : List Task) (Runs : Task → Files.Tree → Run β → Prop) :
    Jobs World (Except Failure β) where
  Begins place before after :=
    ∃ t, tasks[place]? = some t ∧ after = { before with begun := before.begun ++ [t] }
  Finishes place before result after :=
    ∃ t run, tasks[place]? = some t ∧ Runs t before.tree run ∧ result = run.result ∧
      after = ⟨before.begun, run.tree, before.events ++ run.events⟩

/-- The schedule of tasks before the first one is begun. -/
def schedule (tasks : List Task) (tree : Files.Tree) : Schedule World (Except Failure β) :=
  .start tasks.length ⟨[], tree, []⟩

/-- Sums up the results of the selected tasks. -/
def close (s : Suite m) (selection : Selection) (state : Schedule World (Except Failure β)) :
    Run (Register β) :=
  let (result, reported) :=
    collect s.policy (((s.selected selection).map Task.name).zip state.results)
  ⟨result, state.world.tree, state.world.events ++ reported⟩

/-- How a run of a suite may end: a directory cannot be made, or all selected tasks are done, in
whatever order. -/
inductive Ends (s : Suite m) (selection : Selection) (Runs : Task → Files.Tree → Run β → Prop)
    (tree : Files.Tree) : Run (Register β) → Prop
  | unprepared {f left} (h : s.prepare selection tree = (some f, left)) :
      Ends s selection Runs tree ⟨.error f, left, []⟩
  | finished {prepared state} (h : s.prepare selection tree = (none, prepared))
      (reached : Schedule.Reaches (s.selected selection).length (work (s.selected selection) Runs)
        (schedule (s.selected selection) prepared) state)
      (complete : state.Complete) : Ends s selection Runs tree (s.close selection state)

/-- What a task of a suite may come to, when the replies and the times are those that the model of
the suite and a clock may give. -/
def TaskRuns [Arithmetic α] {σ : Type} (s : Suite (StateM σ)) (clock : Clock (StateM σ)) (t : Task)
    (tree : Files.Tree) (run : Run (Register α)) : Prop :=
  ∃ reply, (∀ place call, Answers s.model call (reply place call)) ∧
    t.Ends reply (Told clock) (s.logDirectory t) tree run

end Assay.Suite
