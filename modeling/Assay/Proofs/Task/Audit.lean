import Assay.Proofs.Task.AnyOrder
import Assay.Proofs.Task.Log

/-!
# The log of a run and its result agree

What is logged of an attempt tells what came of it: an output, from which the prediction can be made
again, or the error of the failure. So the result of a run can be made again from the log that is
read back after it: it is the average of the scores of the predictions, or, if an error was logged,
the failure of the first program of which one was.
-/

namespace Assay

/-! ## What is logged of an attempt -/

namespace Program

/-- What is logged of a program for which a model gave an output or failed, and what came of it. -/
inductive Logs (p : Program) (model : Call → Reply) : Trace → Except Failure Json → Prop
  | output {timing output parsed} (tells : parsed = true ↔ ∃ v, readPrediction output = .ok v) :
      Logs p model ⟨p.name, timing, some output, parsed, none⟩ (.ok (predictionOf output))
  | error {timing error f} (fails : p.Fails model error f) :
      Logs p model ⟨p.name, timing, none, false, some error⟩ (.error f)

theorem predictionOf_of_ok {output : String} {v : Json} (h : readPrediction output = .ok v) :
    predictionOf output = v := by
  rw [predictionOf, h]

theorem predictionOf_of_error {output message : String}
    (h : readPrediction output = .error message) : predictionOf output = blankPrediction := by
  rw [predictionOf, h]

theorem completed_logs (p : Program) (config : TaskConfig) (timing : Timing)
    (model : Call → Reply) (output : String) :
    p.Logs model (p.completed config timing output).trace
      (p.completed config timing output).outcome := by
  unfold completed
  cases read : readPrediction output with
  | ok v =>
    dsimp only
    rw [← predictionOf_of_ok read]
    exact .output ⟨fun _ => ⟨v, read⟩, fun _ => rfl⟩
  | error message =>
    dsimp only
    rw [← predictionOf_of_error read]
    refine .output ⟨?_, ?_⟩
    · intro parsed
      cases parsed
    · rintro ⟨v, same⟩
      rw [read] at same
      cases same

/-- What is logged of an attempt tells what came of it. -/
theorem answered_logs (p : Program) (config : TaskConfig) (start finish : Nat)
    (model : Call → Reply) :
    p.Logs model (p.answered config start finish model).trace
      (p.answered config start finish model).outcome := by
  rw [answered_eq]
  cases called : p.call? with
  | none => exact .error (.unsupported called)
  | some call =>
    dsimp only
    cases replied : model call with
    | error f => exact .error (.call called replied)
    | ok outputs =>
      cases outputs with
      | nil => exact p.completed_logs config _ model ""
      | cons output _ => exact p.completed_logs config _ model output

/-- The times that are logged of an attempt are those that were given. -/
theorem answered_timing (p : Program) (config : TaskConfig) (start finish : Nat)
    (model : Call → Reply) :
    (p.answered config start finish model).trace.timing = .between start finish := by
  have completed (timing : Timing) (output : String) :
      (p.completed config timing output).trace.timing = timing := by
    unfold Program.completed
    cases readPrediction output with
    | ok v => rfl
    | error message => rfl
  rw [answered_eq]
  cases p.call? with
  | none => rfl
  | some call =>
    dsimp only
    cases model call with
    | error f => rfl
    | ok outputs =>
      cases outputs with
      | nil => exact completed _ ""
      | cons output _ => exact completed _ output

end Program

namespace Task

variable {t : Task} {reply : Nat → Call → Reply} {Tells : Nat → Prop} {attempts : List Attempt}

/-- What is logged at the place of a program tells what came of its attempt. -/
theorem Attempted.logs (h : t.Attempted reply Tells attempts) {place : Nat} {p : Program}
    {attempt : Attempt} (program : t.programs[place]? = some p)
    (found : attempts[place]? = some attempt) :
    p.Logs (reply place) attempt.trace attempt.outcome := by
  obtain ⟨p', start, finish, program', -, -, rfl⟩ := h.yields found
  obtain rfl : p = p' := Option.some.inj (program.symm.trans program')
  exact p.answered_logs t.config _ _ _

theorem Attempted.forall₂ (h : t.Attempted reply Tells attempts) :
    List.Forall₂ (fun p attempt => ∃ model, p.Logs model attempt.trace attempt.outcome)
      t.programs attempts := by
  refine List.forall₂_iff_get.mpr ⟨h.length.symm, ?_⟩
  intro place inside inside'
  exact ⟨_, h.logs (List.getElem?_eq_getElem inside) (List.getElem?_eq_getElem inside')⟩

theorem Attempted.logs_of_mem (h : t.Attempted reply Tells attempts) {trace : Trace}
    (mem : trace ∈ attempts.map Attempt.trace) :
    ∃ model p outcome, Program.Logs p model trace outcome := by
  obtain ⟨attempt, made, rfl⟩ := List.mem_map.mp mem
  obtain ⟨place, found⟩ := List.mem_iff_getElem?.mp made
  obtain ⟨p, start, finish, program, -⟩ := h.yields found
  exact ⟨_, p, _, h.logs program found⟩

/-- The times of attempts can be logged, if the clock tells times of known years only. -/
theorem Attempted.known (h : t.Attempted reply Tells attempts)
    (known : ∀ n, Tells n → Date.inRange (Timestamp.ofEpochNanoseconds n).date.year = true) :
    ∀ trace ∈ attempts.map Attempt.trace, trace.timing.Known := by
  intro trace mem
  obtain ⟨attempt, made, rfl⟩ := List.mem_map.mp mem
  obtain ⟨place, found⟩ := List.mem_iff_getElem?.mp made
  obtain ⟨p, start, finish, -, told, told', rfl⟩ := h.yields found
  rw [p.answered_timing]
  exact Timing.known_between (known start told) (known finish told')

/-! ## The result from the log -/

variable [Arithmetic α]

/-- The score of a program from its trace. -/
def scoreOfTrace (t : Task) (p : Program) (trace : Trace) : Register α :=
  t.config.metric.score p.gold (predictionOf (trace.output.getD ""))

/-- If no error was logged the scores are those of the outputs in the log. -/
theorem Attempted.scores_of_no_error (h : t.Attempted reply Tells attempts)
    (none : ∀ trace ∈ attempts.map Attempt.trace, trace.error = none) :
    (t.scores attempts : Except Failure (List (Register α))) =
      .ok (t.programs.zipWith t.scoreOfTrace (attempts.map Attempt.trace)) := by
  have pairs := h.forall₂
  rw [scores_eq, List.zip_map_right, List.mapM_map, List.zipWith_map_right,
    ← List.map_uncurry_zip_eq_zipWith]
  apply mapM_eq_ok
  rintro ⟨p, ⟨trace, outcome, events⟩⟩ mem
  obtain ⟨model, logs⟩ := List.forall₂_zip pairs mem
  have clean := none trace (List.mem_map_of_mem (List.of_mem_zip mem).2)
  simp only [Function.comp, Prod.map, id, Function.uncurry, scoreOfTrace]
  cases logs with
  | output _ => rfl
  | error _ => cases clean

/-- If errors were logged the scores fail, with the failure of the first program that has one. -/
theorem Attempted.scores_of_error (h : t.Attempted reply Tells attempts) {place : Nat}
    {trace : Trace} {error : String}
    (found : (attempts.map Attempt.trace)[place]? = some trace) (logged : trace.error = some error)
    (first : ∀ i < place, ∀ e, (attempts.map Attempt.trace)[i]? = some e → e.error = none) :
    ∃ p f, t.programs[place]? = some p ∧ p.Fails (reply place) error f ∧
      (t.scores attempts : Except Failure (List (Register α))) =
        .error (f.within ("Task `" ++ t.name ++ "` failed")) := by
  rw [List.getElem?_map, Option.map_eq_some_iff] at found
  obtain ⟨attempt, found, rfl⟩ := found
  obtain ⟨p, start, finish, program, -⟩ := h.yields found
  have logs := h.logs program found
  obtain ⟨trace, outcome, events⟩ := attempt
  dsimp only at logged logs
  cases logs with
  | output _ => cases logged
  | @error timing message f fails =>
    obtain rfl : message = error := Option.some.inj logged
    refine ⟨p, f, program, fails, ?_⟩
    -- of the attempts before it no error was logged, so each of them has a score
    rw [scores_eq]
    refine mapM_eq_error place (a := (p, .error f)) ?_ rfl ?_
    · rw [List.getElem?_zip_eq_some, List.getElem?_map, found]
      exact ⟨program, rfl⟩
    · rintro i lt ⟨p', outcome⟩ at_
      obtain ⟨program', at_⟩ := List.getElem?_zip_eq_some.mp at_
      rw [List.getElem?_map, Option.map_eq_some_iff] at at_
      obtain ⟨⟨trace', outcome', events'⟩, found', rfl⟩ := at_
      have clean : trace'.error = none := first i lt trace' (by simp [found'])
      have logs' := h.logs program' found'
      dsimp only at logs' ⊢
      cases logs' with
      | output _ => exact ⟨_, rfl⟩
      | error _ => cases clean

/-- Of traces with errors one is the first. -/
theorem exists_first_error {traces : List Trace}
    (errors : ¬ ∀ trace ∈ traces, trace.error = none) :
    ∃ (place : Nat) (trace : Trace) (error : String), traces[place]? = some trace ∧
      trace.error = some error ∧ ∀ i < place, ∀ e, traces[i]? = some e → e.error = none := by
  obtain ⟨front, trace, back, rfl, before, logged⟩ := exists_first errors
  obtain ⟨error, logged⟩ := Option.ne_none_iff_exists'.mp logged
  refine ⟨front.length, trace, error, by simp, logged, ?_⟩
  intro i lt e found
  rw [List.getElem?_append_left lt] at found
  exact before e (List.mem_of_getElem? found)

/-! ## The audit -/

/-- **The log and the result agree.** If a log can be written where a run writes its own, then what
is read back after any run is one trace for each program, in order and with its name; each has
either an output or an error, and tells whether the output is a prediction. If there are no errors,
the result is the average of the scores that the outputs in the log get; else it is the failure of
the first program of which an error was logged. The clock tells times of known years. -/
theorem log_agrees (t : Task) (reply : Nat → Call → Reply) (Tells : Nat → Prop)
    (directory : String) (tree : Files.Tree) {run : Run (Register α)}
    (known : ∀ n, Tells n → Date.inRange (Timestamp.ofEpochNanoseconds n).date.year = true)
    (writable : ∃ text written, tree.writeText (Log.path directory) text = .ok written)
    (ended : t.Ends reply Tells directory tree run) :
    ∃ traces, Log.read run.tree directory = .ok traces ∧
      traces.map Trace.program = t.programs.map Program.name ∧
      (∀ trace ∈ traces, trace.output.isSome = trace.error.isNone ∧
        (trace.parsed = true ↔
          ∃ output v, trace.output = some output ∧ readPrediction output = .ok v)) ∧
      ((∀ trace ∈ traces, trace.error = none) ∧
          run.result = .ok (macroAverage (t.programs.zipWith (fun p trace =>
            t.config.metric.score p.gold (predictionOf (trace.output.getD ""))) traces)) ∨
        ∃ (place : Nat) (trace : Trace) (error : String) (p : Program) (f : Failure),
          traces[place]? = some trace ∧ trace.error = some error ∧
          (∀ i < place, ∀ e, traces[i]? = some e → e.error = none) ∧
          t.programs[place]? = some p ∧ p.Fails (reply place) error f ∧
          run.result = .error (f.within ("Task `" ++ t.name ++ "` failed"))) := by
  obtain ⟨attempts, attempted, rfl⟩ := ends_iff.mp ended
  obtain ⟨text, written, wrote⟩ := writable
  obtain ⟨slot, found, -⟩ := Files.Tree.exists_slot_of_writeText wrote
  have free := Files.Tree.slot_free found
  refine ⟨attempts.map Attempt.trace, ?_, ?_, ?_, ?_⟩
  · rw [conclude_tree_of_slot found]
    exact Log.read_of_slot (fun trace mem => (attempted.known known trace mem).legible)
      (Files.Tree.slot_put_file found free) (Files.Tree.look_put_self free)
  · rw [List.map_map]
    refine (map_eq_of_forall₂ ?_ attempted.forall₂).symm
    rintro p ⟨trace, outcome, events⟩ ⟨model, logs⟩
    dsimp only at logs
    cases logs with
    | output _ => rfl
    | error _ => rfl
  · intro trace mem
    obtain ⟨model, p, outcome, logs⟩ := attempted.logs_of_mem mem
    cases logs with
    | output tells => exact ⟨rfl, tells.trans (by simp)⟩
    | error _ => exact ⟨rfl, by simp⟩
  · rw [conclude_result_of_slot found, verdict]
    by_cases clean : ∀ trace ∈ attempts.map Attempt.trace, trace.error = none
    · refine .inl ⟨clean, ?_⟩
      rw [attempted.scores_of_no_error clean]
      rfl
    · obtain ⟨place, trace, error, found, logged, first⟩ := exists_first_error clean
      obtain ⟨p, f, program, fails, scores⟩ := attempted.scores_of_error (α := α) found logged first
      refine .inr ⟨place, trace, error, p, f, found, logged, first, program, fails, ?_⟩
      rw [scores]
      rfl

/-- With a clock that stands still, the run of the mixed task with one call at a time leaves a log
of its three programs, and fails for the first of them. -/
theorem log_agrees_mixed :
    ∃ run traces,
      run = ((mixed.run (pure 0) (fun call => pure (halfFailing call)) "." (.empty [])
        : StateM Unit (Run (Register Rat))).run ()).1 ∧
      Log.read run.tree "." = .ok traces ∧ traces.map Trace.program = ["a.c", "m", "b.c"] ∧
      run.result = .error (((Failure.note "HTTP 500").within "Model call failed for a.c").within
        "Task `alias` failed") := by
  obtain ⟨reply, answers, ended⟩ := run_ends (α := Rat) mixed (pure 0 : Clock (StateM Unit))
    (fun call => pure (halfFailing call)) "." (.empty []) ()
  have known : ∀ n, Told (pure 0 : Clock (StateM Unit)) n →
      Date.inRange (Timestamp.ofEpochNanoseconds n).date.year = true := by
    rintro n ⟨_, rfl⟩
    show Date.inRange (Timestamp.ofEpochNanoseconds 0).date.year = true
    decide
  obtain ⟨traces, read, names, -, -⟩ :=
    log_agrees mixed reply _ "." (.empty []) known ⟨"", _, rfl⟩ ended
  exact ⟨_, traces, rfl, read, names, rfl⟩

end Task

end Assay
