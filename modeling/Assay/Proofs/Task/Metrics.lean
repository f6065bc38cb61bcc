import Assay.Proofs.Score.Range
import Assay.Proofs.Task.FirstCompletion

/-!
# The metrics of a task

A run that succeeds has a score for each program: that of the prediction which the first completion
for the program makes. Its metrics are the means of these scores, so they are shares, and there are
none just when there are no programs. As all scores have the same metrics, no run warns that one is
missing.
-/

namespace Assay

theorem firstCompletion_eq_ok_iff {reply : Reply} {output : String} :
    firstCompletion reply = .ok output ↔
      ∃ samples, reply = .ok samples ∧ samples.headD "" = output := by
  cases reply with
  | error f => simp [firstCompletion, Except.map]
  | ok samples => simp [firstCompletion, Except.map]

namespace Program

/-- An outcome is a prediction just when the program can be asked about and its call succeeds. -/
theorem outcomeOf_eq_ok_iff {p : Program} {completion : Call → Except Failure String}
    {prediction : Json} :
    p.outcomeOf completion = .ok prediction ↔ ∃ call output,
      p.call? = some call ∧ completion call = .ok output ∧ predictionOf output = prediction := by
  unfold outcomeOf
  split
  · next none => simp [none]
  · next call called =>
    split
    · next f failed => simp [called, failed]
    · next output completed => simp [called, completed]

end Program

namespace Task

/-- The score that a program of a task gets: the program can be asked about, the model replied to its
call, and the score is that of the prediction which the first completion makes. A reply without
completions counts as the empty one. -/
def Scores [Arithmetic α] (t : Task) (reply : Nat → Call → Reply) (place : Nat) (p : Program)
    (score : Prf α) : Prop :=
  ∃ call samples, p.call? = some call ∧ reply place call = .ok samples ∧
    score = t.config.metric.compare p.gold (predictionOf (samples.headD ""))

variable {t : Task} {reply : Nat → Call → Reply} {Tells : Nat → Prop} {directory : String}
  {tree : Files.Tree} {attempts : List Attempt}

section
variable [Arithmetic α] {registers : List (Register α)}

/-- When no attempt failed, the program at a place has a score, and it is the one at that place. -/
theorem Attempted.scores_at (h : t.Attempted reply Tells attempts)
    (succeeded : t.scores attempts = .ok registers) {place : Nat} {p : Program}
    (program : t.programs[place]? = some p) :
    ∃ score : Prf α, t.Scores reply place p score ∧ registers[place]? = some score.metrics := by
  rw [scores_eq, mapM_eq_ok_iff] at succeeded
  have inside : place < attempts.length := by
    rw [h.length]
    exact (List.getElem?_eq_some_iff.mp program).1
  obtain ⟨p', start, finish, program', -, -, made⟩ := h.yields (List.getElem?_eq_getElem inside)
  obtain rfl : p = p' := Option.some.inj (program.symm.trans program')
  have pair : (t.programs.zip (attempts.map Attempt.outcome))[place]? =
      some (p, p.outcomeOf fun call => firstCompletion (reply place call)) := by
    rw [List.getElem?_zip_eq_some, List.getElem?_map, List.getElem?_eq_getElem inside, made]
    exact ⟨program, congrArg some (p.answered_outcome _ _ _ _)⟩
  obtain ⟨register, found, scored⟩ := exists_getElem?_of_forall₂ succeeded pair
  -- an attempt that failed has no score, so there was a prediction
  cases outcome : p.outcomeOf fun call => firstCompletion (reply place call) with
  | error f =>
    rw [outcome] at scored
    cases scored
  | ok prediction =>
    rw [outcome] at scored
    obtain ⟨call, output, called, first, rfl⟩ := Program.outcomeOf_eq_ok_iff.mp outcome
    obtain ⟨samples, replied, rfl⟩ := firstCompletion_eq_ok_iff.mp first
    refine ⟨_, ⟨call, samples, called, replied, rfl⟩, ?_⟩
    rw [found, ← Except.ok.inj scored]
    rfl

/-- When no attempt failed, the programs have scores, and these are the scores in their order. -/
theorem Attempted.scored (h : t.Attempted reply Tells attempts)
    (succeeded : t.scores attempts = .ok registers) :
    ∃ scores : List (Prf α),
      List.Forall₂ (fun e score => t.Scores reply e.2 e.1 score) t.programs.zipIdx scores ∧
      registers = scores.map Prf.metrics := by
  have each : ∀ e ∈ t.programs.zipIdx, ∃ score : Prf α,
      t.Scores reply e.2 e.1 score ∧ registers[e.2]? = some score.metrics := by
    rintro ⟨p, place⟩ mem
    exact h.scores_at succeeded (List.mk_mem_zipIdx_iff_getElem?.mp mem)
  obtain ⟨scores, all⟩ := exists_forall₂_iff.mpr each
  refine ⟨scores, all.imp fun _ _ h => h.1, ?_⟩
  have count : registers.length = t.programs.length := by
    rw [scores_eq, mapM_eq_ok_iff] at succeeded
    rw [← succeeded.length_eq, List.length_zip, List.length_map, h.length, Nat.min_self]
  have count' : scores.length = t.programs.length := by
    rw [← all.length_eq, List.length_zipIdx]
  -- place by place: the register found there is that of the score at this place
  apply List.ext_getElem?
  intro place
  rw [List.getElem?_map]
  cases program : t.programs[place]? with
  | none =>
    have outside := List.getElem?_eq_none_iff.mp program
    rw [List.getElem?_eq_none (by omega), List.getElem?_eq_none (by omega)]
    rfl
  | some p =>
    have pair : t.programs.zipIdx[place]? = some (p, place) := by simp [program]
    obtain ⟨score, at_, -, found⟩ := exists_getElem?_of_forall₂ all pair
    rw [found, at_]
    rfl

/-- The metrics of a run that succeeds are the average of the scores of its programs. -/
theorem Ends.averages {run : Run (Register α)} {metrics : Register α}
    (ended : t.Ends reply Tells directory tree run) (succeeded : run.result = .ok metrics) :
    ∃ scores : List (Prf α),
      List.Forall₂ (fun e score => t.Scores reply e.2 e.1 score) t.programs.zipIdx scores ∧
      metrics = macroAverage (scores.map Prf.metrics) := by
  obtain ⟨attempts, attempted, rfl⟩ := ends_iff.mp ended
  cases slot : tree.slot (Log.path directory) with
  | error e =>
    rw [conclude_result_of_slot_error slot] at succeeded
    cases succeeded
  | ok place =>
    rw [conclude_result_of_slot slot, verdict] at succeeded
    cases scored : (t.scores attempts : Except Failure (List (Register α))) with
    | error f =>
      rw [scored] at succeeded
      cases succeeded
    | ok registers =>
      rw [scored] at succeeded
      obtain ⟨scores, all, rfl⟩ := attempted.scored scored
      exact ⟨scores, all, (Except.ok.inj succeeded).symm⟩

/-- What is averaged are scores, which have all metrics, so only attempts are reported on. -/
theorem Attempted.conclude_events (h : t.Attempted reply Tells attempts) (directory : String)
    (tree : Files.Tree) :
    (t.conclude directory attempts tree : Run (Register α)).events =
      attempts.flatMap Attempt.events := by
  rw [conclude_events_eq, List.append_right_eq_self]
  cases scored : (t.scores attempts : Except Failure (List (Register α))) with
  | error f =>
    split
    · next impossible => cases impossible
    · rfl
  | ok registers =>
    obtain ⟨scores, -, rfl⟩ := h.scored scored
    split
    · next same =>
      obtain rfl := Except.ok.inj same
      exact averageEvents_metrics _
    · rfl

/-- No run of a task reports that a metric is missing. -/
theorem Ends.metricMissing_notMem {run : Run (Register α)}
    (ended : t.Ends reply Tells directory tree run) (metric : String) (place : Nat) :
    Event.metricMissing metric place ∉ run.events := by
  obtain ⟨attempts, attempted, rfl⟩ := ends_iff.mp ended
  rw [attempted.conclude_events directory tree]
  intro mem
  obtain ⟨attempt, member, reported⟩ := List.mem_flatMap.mp mem
  obtain ⟨i, found⟩ := List.mem_iff_getElem?.mp member
  obtain ⟨p, start, finish, -, -, -, rfl⟩ := attempted.yields found
  cases Program.Warning.of_answered reported

theorem Scores.inRange {place : Nat} {p : Program} {score : Prf Rat}
    (h : t.Scores reply place p score) : score.InRange := by
  obtain ⟨call, samples, -, -, rfl⟩ := h
  exact Metric.inRange_compare _ _ _

end

/-- **The metrics of a run that succeeds are well formed.** In any arithmetic there are none just
when the task has no programs, else they are the precision, the recall and the harmonic mean of the
two, in this order, and the run does not report that a metric is missing. In exact arithmetic each
is the mean of that number over the scores of the programs, and lies between zero and one. -/
theorem metrics_well_formed (t : Task) (reply : Nat → Call → Reply) (Tells : Nat → Prop)
    (directory : String) (tree : Files.Tree) :
    (∀ {α : Type} [Arithmetic α] {run : Run (Register α)} {metrics : Register α},
      t.Ends reply Tells directory tree run → run.result = .ok metrics →
        (metrics.entries = [] ↔ t.programs = []) ∧
        (t.programs ≠ [] → metrics.names = ["precision", "recall", "f1"]) ∧
        ∀ metric place, Event.metricMissing metric place ∉ run.events) ∧
    ∀ {run : Run (Register Rat)} {metrics : Register Rat},
      t.Ends reply Tells directory tree run → run.result = .ok metrics →
        ∃ scores : List (Prf Rat),
          List.Forall₂ (fun e score => t.Scores reply e.2 e.1 score) t.programs.zipIdx scores ∧
          (t.programs ≠ [] → metrics.entries =
            [("precision", (scores.map Prf.precision).sum / t.programs.length),
              ("recall", (scores.map Prf.recalled).sum / t.programs.length),
              ("f1", (scores.map Prf.f1).sum / t.programs.length)]) ∧
          ∀ entry ∈ metrics.entries, 0 ≤ entry.2 ∧ entry.2 ≤ 1 := by
  have count {α : Type} [Arithmetic α] {scores : List (Prf α)}
      (all : List.Forall₂ (fun e score => t.Scores reply e.2 e.1 score) t.programs.zipIdx scores) :
      scores.length = t.programs.length := by
    rw [← all.length_eq, List.length_zipIdx]
  have none_iff {α : Type} [Arithmetic α] {scores : List (Prf α)}
      (all : List.Forall₂ (fun e score => t.Scores reply e.2 e.1 score) t.programs.zipIdx scores) :
      scores = [] ↔ t.programs = [] := by
    rw [← List.length_eq_zero_iff, count all, List.length_eq_zero_iff]
  constructor
  · intro α _ run metrics ended succeeded
    obtain ⟨scores, all, rfl⟩ := ended.averages succeeded
    refine ⟨?_, ?_, ended.metricMissing_notMem⟩
    · rw [← none_iff all]
      constructor
      · intro empty
        by_contra some
        rw [entries_macroAverage some] at empty
        cases empty
      · rintro rfl
        rfl
    · intro some
      rw [Register.names, entries_macroAverage (mt (none_iff all).mp some)]
      rfl
  · intro run metrics ended succeeded
    obtain ⟨scores, all, rfl⟩ := ended.averages succeeded
    have each : ∀ score ∈ scores, score.InRange := by
      intro score mem
      obtain ⟨e, -, scored⟩ := exists_of_mem_results all mem
      exact scored.inRange
    refine ⟨scores, all, ?_, isShare_macroAverage each⟩
    intro some
    rw [← count all]
    exact entries_macroAverage_rat (mt (none_iff all).mp some)

/-- A task of two files with different answers. -/
def lettered : Task where
  config := ⟨"alias", "", .perFile, [], .c, "", .prf1, none, "*.c", "answers"⟩
  programs := [⟨"a.c", .arr [.str "v"], .file "a" .c⟩, ⟨"b.c", .arr [.str "w"], .file "b" .c⟩]
  maxConcurrency := none

/-- A model that finds the answer to one of them gets one half of everything. -/
theorem metrics_well_formed_lettered :
    ∃ (run : Run (Register Rat)) (metrics : Register Rat),
      run = ((lettered.run (pure 0) (fun _ => pure (.ok ["['v']"])) "." (.empty [])
        : StateM Unit _).run ()).1 ∧
      run.result = .ok metrics ∧ metrics.names = ["precision", "recall", "f1"] ∧
      (∀ entry ∈ metrics.entries, 0 ≤ entry.2 ∧ entry.2 ≤ 1) ∧
      metrics.entries = [("precision", 1 / 2), ("recall", 1 / 2), ("f1", 1 / 2)] := by
  obtain ⟨reply, -, ended⟩ := run_ends (α := Rat) lettered (pure 0 : Clock (StateM Unit))
    (fun _ => pure (.ok ["['v']"])) "." (.empty []) ()
  have well := metrics_well_formed lettered reply (Told (pure 0 : Clock (StateM Unit))) "."
    (.empty [])
  obtain ⟨-, names, -⟩ := well.1 ended rfl
  obtain ⟨-, -, -, range⟩ := well.2 ended rfl
  exact ⟨_, _, rfl, rfl, names (List.cons_ne_nil _ _), range, by decide +kernel⟩

end Task

end Assay
