import Assay.Proofs.Files.Writing
import Assay.Task.Run
import Mathlib.Data.List.Forall2

/-!
# What a run of a task concludes

Whether a log can be written is a matter of the tree and the directory only. If it can, the run
comes to the verdict over its attempts, and the tree has the log in its slot; if it cannot, the run
fails for that and leaves the tree as it is. The verdict depends on the outcomes of the attempts
alone, so runs whose attempts differ in their times come to the same but for the times in their
logs. What is reported of an attempt is a warning about its program.
-/

namespace Assay

/-! ## What is reported of an attempt -/

namespace Program

/-- The warnings that an attempt at a program may give. -/
inductive Warning (p : Program) (config : TaskConfig) : Event → Prop
  | noSamples : Warning p config (.noSamples config.name p.name)
  | unreadable (output error : String) :
      Warning p config (.unreadable config.name p.name output error)
  | misfit (expected reason : String) : Warning p config (.misfit config.name p.name expected reason)

variable {p : Program} {config : TaskConfig} {event : Event}

theorem Warning.of_misfits {prediction : Json} (mem : event ∈ p.misfits config prediction) :
    p.Warning config event := by
  unfold misfits at mem
  split at mem
  · cases mem
  · split at mem
    · cases mem
    · rw [List.mem_singleton.mp mem]
      exact .misfit _ _

theorem Warning.of_completed {timing : Timing} {output : String}
    (mem : event ∈ (p.completed config timing output).events) : p.Warning config event := by
  unfold completed at mem
  split at mem
  · exact .of_misfits mem
  · rw [List.mem_singleton.mp mem]
    exact .unreadable _ _

/-- Whatever the model replies, what is reported of an attempt is one of these warnings. -/
theorem Warning.of_answered {start finish : Nat} {model : Call → Reply}
    (mem : event ∈ (p.answered config start finish model).events) : p.Warning config event := by
  rw [answered_eq] at mem
  split at mem
  · cases mem
  · unfold replied at mem
    split at mem
    · cases mem
    · exact .of_completed mem
    · rcases List.mem_cons.mp mem with rfl | mem
      · exact .noSamples
      · exact .of_completed mem

end Program

/-! ## Logs that were written -/

namespace Log

open Files (Tree Place)

/-- Writing a log puts its text into the slot of its path. -/
theorem write_eq (tree : Tree) (directory : String) (traces : List Trace) :
    write tree directory traces =
      fileContext ("Failed to write " ++ Text.quotedPath (path directory))
        ((tree.slot (path directory)).map fun place =>
          tree.put place (.file (.text (text traces)))) := by
  rw [write, Tree.writeText_eq]

theorem write_of_slot {tree : Tree} {directory : String} {place : Place}
    (h : tree.slot (path directory) = .ok place) (traces : List Trace) :
    write tree directory traces = .ok (tree.put place (.file (.text (text traces)))) := by
  rw [write_eq, h]
  rfl

/-- What one log cannot be written for no log can be written for. -/
theorem write_of_slot_error {tree : Tree} {directory : String} {e : Files.FileError}
    (h : tree.slot (path directory) = .error e) (traces : List Trace) :
    write tree directory traces =
      .error ((Failure.of (.file e)).within
        ("Failed to write " ++ Text.quotedPath (path directory))) := by
  rw [write_eq, h]
  rfl

/-- The tree after a log was to be written: with the log, or as before if that is impossible. -/
def after (tree : Tree) (directory : String) (traces : List Trace) : Tree :=
  match write tree directory traces with
  | .ok written => written
  | .error _ => tree

end Log

namespace Task

variable [Arithmetic α] {t : Task} {directory : String} {tree : Files.Tree}

/-! ## The verdict -/

/-- What attempts come to: the average of their scores, or the failure of the first that failed. -/
def verdict (t : Task) (attempts : List Attempt) : Except Failure (Register α) :=
  (t.scores attempts).map macroAverage

theorem conclude_events_eq (t : Task) (directory : String) (attempts : List Attempt)
    (tree : Files.Tree) :
    (t.conclude directory attempts tree : Run (Register α)).events =
      attempts.flatMap Attempt.events ++
        match tree.slot (Log.path directory),
          (t.scores attempts : Except Failure (List (Register α))) with
        | .ok _, .ok scores => averageEvents scores
        | _, _ => [] := by
  rw [conclude]
  cases h : tree.slot (Log.path directory) with
  | error e => simp [Log.write_of_slot_error h]
  | ok place =>
    rw [Log.write_of_slot h]
    dsimp only
    cases (t.scores attempts : Except Failure (List (Register α))) with
    | error f => simp
    | ok scores => simp

/-- A run whose log can be written comes to its verdict. -/
theorem conclude_result_of_slot {place : Files.Place}
    (h : tree.slot (Log.path directory) = .ok place) (attempts : List Attempt) :
    (t.conclude directory attempts tree).result = (t.verdict attempts : Except _ (Register α)) := by
  rw [conclude, Log.write_of_slot h, verdict]
  dsimp only
  cases (t.scores attempts : Except Failure (List (Register α))) with
  | error f => rfl
  | ok scores => rfl

/-- A run whose log cannot be written fails for that, whatever came of its attempts. -/
theorem conclude_result_of_slot_error {e : Files.FileError}
    (h : tree.slot (Log.path directory) = .error e) (attempts : List Attempt) :
    (t.conclude directory attempts tree : Run (Register α)).result =
      .error (((Failure.of (.file e)).within
        ("Failed to write " ++ Text.quotedPath (Log.path directory))).within
          ("Task `" ++ t.name ++ "`: could not write generation log")) := by
  rw [conclude, Log.write_of_slot_error h]

/-- A run leaves a tree in which only its log was written, if that was possible. -/
theorem conclude_tree_eq (t : Task) (directory : String) (attempts : List Attempt)
    (tree : Files.Tree) :
    (t.conclude directory attempts tree : Run (Register α)).tree =
      Log.after tree directory (attempts.map Attempt.trace) := by
  rw [conclude, Log.after]
  cases Log.write tree directory (attempts.map Attempt.trace) with
  | error f => rfl
  | ok written =>
    dsimp only
    cases (t.scores attempts : Except Failure (List (Register α))) with
    | error f => rfl
    | ok scores => rfl

theorem conclude_tree_of_slot {place : Files.Place}
    (h : tree.slot (Log.path directory) = .ok place) (attempts : List Attempt) :
    (t.conclude directory attempts tree : Run (Register α)).tree =
      tree.put place (.file (.text (Log.text (attempts.map Attempt.trace)))) := by
  rw [conclude_tree_eq, Log.after, Log.write_of_slot h]

/-- The score of one program, or the failure of its attempt in the context of the task. -/
def scoreOf (t : Task) (p : Program) : Except Failure Json → Except Failure (Register α)
  | .ok prediction => .ok (t.config.metric.score p.gold prediction)
  | .error f => .error (f.within ("Task `" ++ t.name ++ "` failed"))

/-- Scores depend on what came of the attempts and not on how they were logged. -/
theorem scores_eq (t : Task) (attempts : List Attempt) :
    (t.scores attempts : Except Failure (List (Register α))) =
      (t.programs.zip (attempts.map Attempt.outcome)).mapM fun e => t.scoreOf e.1 e.2 := by
  rw [scores, List.zip_map_right, List.mapM_map]
  congr 1
  funext e
  obtain ⟨p, attempt⟩ := e
  simp only [Function.comp, Prod.map, id]
  cases attempt.outcome with
  | error f => rfl
  | ok prediction => rfl

end Task

/-! ## Runs that differ in their times -/

/-- Two traces are equal but for their times. -/
def Trace.SameButTimes (a b : Trace) : Prop :=
  { a with timing := b.timing } = b

/-- Two attempts are equal but for the times of their traces. -/
structure Attempt.SameButTimes (a b : Attempt) : Prop where
  trace : a.trace.SameButTimes b.trace
  outcome : a.outcome = b.outcome
  events : a.events = b.events

/-- Two runs over one tree and directory came to the same but for the times in their logs: they
have equal results and events, and wrote logs of the same traces but for their times, or none. -/
structure Run.SameButTimes (directory : String) (tree : Files.Tree) (a b : Run β) : Prop where
  result : a.result = b.result
  events : a.events = b.events
  logs : ∃ xs ys, List.Forall₂ Trace.SameButTimes xs ys ∧
    a.tree = Log.after tree directory xs ∧ b.tree = Log.after tree directory ys

theorem map_eq_of_forall₂ {R : γ → δ → Prop} {f : γ → β} {g : δ → β}
    (h : ∀ a b, R a b → f a = g b) {as : List γ} {bs : List δ} (all : List.Forall₂ R as bs) :
    as.map f = bs.map g := by
  induction all with
  | nil => rfl
  | cons first _ ih => rw [List.map_cons, List.map_cons, h _ _ first, ih]

/-- The scores and the verdict do not depend on the times of attempts. -/
theorem Task.scores_eq_of_sameButTimes [Arithmetic α] (t : Task) {as bs : List Attempt}
    (same : List.Forall₂ Attempt.SameButTimes as bs) :
    (t.scores as : Except Failure (List (Register α))) = t.scores bs := by
  rw [scores_eq, scores_eq, map_eq_of_forall₂ (fun _ _ h => h.outcome) same]

theorem Task.verdict_eq_of_sameButTimes [Arithmetic α] (t : Task) {as bs : List Attempt}
    (same : List.Forall₂ Attempt.SameButTimes as bs) :
    (t.verdict as : Except Failure (Register α)) = t.verdict bs := by
  rw [verdict, verdict, t.scores_eq_of_sameButTimes same]

theorem forall₂_trace {as bs : List Attempt} (same : List.Forall₂ Attempt.SameButTimes as bs) :
    List.Forall₂ Trace.SameButTimes (as.map Attempt.trace) (bs.map Attempt.trace) := by
  rw [List.forall₂_map_left_iff, List.forall₂_map_right_iff]
  exact same.imp fun _ _ h => h.trace

/-- Attempts that differ in their times only lead to runs that do. -/
theorem Task.conclude_sameButTimes [Arithmetic α] (t : Task) (directory : String)
    (tree : Files.Tree) {as bs : List Attempt} (same : List.Forall₂ Attempt.SameButTimes as bs) :
    (t.conclude directory as tree : Run (Register α)).SameButTimes directory tree
      (t.conclude directory bs tree) := by
  have events : as.flatMap Attempt.events = bs.flatMap Attempt.events := by
    rw [List.flatMap_def, List.flatMap_def, map_eq_of_forall₂ (fun _ _ h => h.events) same]
  refine ⟨?_, ?_, as.map Attempt.trace, bs.map Attempt.trace, forall₂_trace same, ?_, ?_⟩
  · cases h : tree.slot (Log.path directory) with
    | error e => rw [conclude_result_of_slot_error h, conclude_result_of_slot_error h]
    | ok place =>
      rw [conclude_result_of_slot h, conclude_result_of_slot h, t.verdict_eq_of_sameButTimes same]
  · rw [conclude_events_eq, conclude_events_eq, t.scores_eq_of_sameButTimes same, events]
  · exact conclude_tree_eq t directory as tree
  · exact conclude_tree_eq t directory bs tree

end Assay
