import Assay.Proofs.Task.Conclusion
import Assay.Proofs.Task.Schedule

/-!
# The order of calls does not matter

Attempts at one program that get the same reply differ in their times only, so whatever the order
in which the calls of a task are answered, a run comes to what it comes to with one call at a time.
-/

namespace Assay

/-! ## Attempts that get the same reply -/

namespace Program

theorem failed_sameButTimes (p : Program) (timing timing' : Timing) (error : String)
    (f : Failure) :
    (p.failed timing error f).SameButTimes (p.failed timing' error f) :=
  ⟨rfl, rfl, rfl⟩

theorem completed_sameButTimes (p : Program) (config : TaskConfig) (timing timing' : Timing)
    (output : String) :
    (p.completed config timing output).SameButTimes (p.completed config timing' output) := by
  simp only [completed]
  cases readPrediction output with
  | ok prediction => exact ⟨rfl, rfl, rfl⟩
  | error message => exact ⟨rfl, rfl, rfl⟩

theorem replied_sameButTimes (p : Program) (config : TaskConfig) (timing timing' : Timing)
    (reply : Reply) :
    (p.replied config timing reply).SameButTimes (p.replied config timing' reply) := by
  cases reply with
  | error f => exact p.failed_sameButTimes timing timing' f.message _
  | ok outputs =>
    cases outputs with
    | nil =>
      have same := p.completed_sameButTimes config timing timing' ""
      exact ⟨same.trace, same.outcome, congrArg (_ :: ·) same.events⟩
    | cons output _ => exact p.completed_sameButTimes config timing timing' output

theorem answered_sameButTimes (p : Program) (config : TaskConfig)
    (start finish start' finish' : Nat) (model : Call → Reply) :
    (p.answered config start finish model).SameButTimes
      (p.answered config start' finish' model) := by
  simp only [answered_eq]
  cases p.call? with
  | none => exact p.failed_sameButTimes _ _ _ _
  | some call => exact p.replied_sameButTimes config _ _ (model call)

end Program

namespace Task

variable {t : Task} {reply : Nat → Call → Reply} {Tells Tells' : Nat → Prop}

theorem Attempted.sameButTimes {as bs : List Attempt} (h : t.Attempted reply Tells as)
    (h' : t.Attempted reply Tells' bs) : List.Forall₂ Attempt.SameButTimes as bs := by
  refine (forall₂_of_common (attempted_iff_forall₂.mp h) (attempted_iff_forall₂.mp h')).imp ?_
  rintro _ _ ⟨⟨p, place⟩, ⟨start, finish, -, -, rfl⟩, start', finish', -, -, rfl⟩
  exact p.answered_sameButTimes t.config _ _ _ _ (reply place)

/-! ## Calls -/

/-- The calls of the places of a task are its calls. -/
theorem flatMap_callsAt (t : Task) :
    (List.range t.programs.length).flatMap t.callsAt = t.calls := by
  have places : List.range t.programs.length = t.programs.zipIdx.map Prod.snd := by
    rw [List.zipIdx_map_snd, List.range_eq_range']
  rw [places, List.flatMap_map, calls, List.filterMap_eq_flatMap_toList]
  refine List.flatMap_congr ?_
  rintro ⟨p, place⟩ mem
  have found : t.programs[place]? = some p := List.mk_mem_zipIdx_iff_getElem?.mp mem
  simp [callsAt, found]

/-- When all attempts are made the model got the calls of the task, each once and in order. -/
theorem world_eq_calls {s : Schedule (List (Nat × Call)) Attempt}
    (reached : Schedule.Reaches t.callLimit (t.work reply Tells) t.schedule s)
    (complete : s.Complete) : s.world = t.calls := by
  rw [← flatMap_callsAt]
  exact reached.record_eq id t.callsAt (fun begins => begins) (fun finishes => And.right finishes)
    complete

/-- No place has two calls. -/
theorem nodup_calls (t : Task) : (t.calls.map Prod.fst).Nodup := by
  rw [calls, List.Nodup, List.pairwise_map, List.pairwise_filterMap]
  have ascending : (t.programs.zipIdx.map Prod.snd).Pairwise (· ≠ ·) := by
    rw [List.zipIdx_map_snd]
    exact List.nodup_range'
  refine (List.pairwise_map.mp ascending).imp ?_
  intro first second differ call called call' called'
  obtain ⟨_, _, rfl⟩ := Option.map_eq_some_iff.mp called
  obtain ⟨_, _, rfl⟩ := Option.map_eq_some_iff.mp called'
  exact differ

/-- The calls are those with the texts of the programs of a single file. -/
theorem mem_calls_iff {place : Nat} {call : Call} :
    (place, call) ∈ t.calls ↔ ∃ p text language, t.programs[place]? = some p ∧
      p.source = .file text language ∧ call = .ofPrompt text := by
  rw [calls, List.mem_filterMap]
  constructor
  · rintro ⟨⟨p, i⟩, mem, called⟩
    have found : t.programs[i]? = some p := List.mk_mem_zipIdx_iff_getElem?.mp mem
    obtain ⟨c, called, same⟩ := Option.map_eq_some_iff.mp called
    obtain ⟨rfl, rfl⟩ := Prod.mk.inj same
    cases source : p.source with
    | project _ _ => simp [Program.call?, source] at called
    | file text language =>
      refine ⟨p, text, language, found, source, ?_⟩
      simpa [Program.call?, source] using called.symm
  · rintro ⟨p, text, language, found, source, rfl⟩
    exact ⟨(p, place), List.mk_mem_zipIdx_iff_getElem?.mpr found, by simp [Program.call?, source]⟩

/-! ## Any order -/

/-- A run that is not complete can go on, as long as the clock tells some time. -/
theorem exists_step {s : Schedule (List (Nat × Call)) Attempt} (time : Nat) (tells : Tells time)
    (reached : Schedule.Reaches t.callLimit (t.work reply Tells) t.schedule s)
    (running : ¬ s.Complete) :
    ∃ next, Schedule.Step t.callLimit (t.work reply Tells) s next := by
  refine Schedule.exists_step (Nat.lt_of_lt_of_le Nat.one_pos (Nat.le_max_right _ _)) ?_ ?_ running
  · intro place _
    exact ⟨_, rfl⟩
  · intro place opened
    have inside : place < t.programs.length := by
      have job : place ∈ s.jobs := by simp [Schedule.jobs, opened]
      simpa [schedule, Schedule.start, Schedule.jobs] using reached.jobs_perm.mem_iff.mp job
    have found := List.getElem?_eq_getElem inside
    exact ⟨_, s.world, ⟨t.programs[place], time, time, found, tells, tells, rfl⟩, rfl⟩

/-- **The order of calls does not matter.** Whatever the limit, the failures and the order in which
calls are begun and answered: no more calls are open than the limit allows; a run that is not
complete can go on; and a complete one has made one call for each program of a single file and no
other, and comes to what the run with one call at a time comes to, but for the times in its log. The
run with one call at a time makes just these calls. -/
theorem conclusion_of_any_order [Arithmetic α] (t : Task) (model : Call → Reply)
    (directory : String) (tree : Files.Tree) {s : Schedule (List (Nat × Call)) Attempt}
    (reached : Schedule.Reaches t.callLimit (t.work (fun _ => model) fun _ => True) t.schedule s) :
    s.opened.length ≤ max 1 (t.maxConcurrency.getD t.programs.length) ∧
    (¬ s.Complete →
      ∃ next, Schedule.Step t.callLimit (t.work (fun _ => model) fun _ => True) s next) ∧
    (s.Complete →
      (s.world.map Prod.fst).Nodup ∧
      (∀ place call, (place, call) ∈ s.world ↔ ∃ p text language,
        t.programs[place]? = some p ∧ p.source = .file text language ∧ call = .ofPrompt text) ∧
      ∀ {σ : Type} (clock : Clock (StateM σ)) (w : σ),
        (t.conclude directory s.results tree : Run (Register α)).SameButTimes directory tree
          ((t.run clock (fun call => pure (model call)) directory tree).run w).1 ∧
        (((t.run (StateT.lift clock) (Model.recording fun call => pure (model call)) directory
            tree : StateT _ (StateM σ) (Run (Register α))).run []).run w).1 =
          (((t.run clock (fun call => pure (model call)) directory tree).run w).1,
            s.world.map fun e => (e.2, model e.2))) := by
  refine ⟨?_, exists_step 0 trivial reached, fun complete => ⟨?_, ?_, ?_⟩⟩
  · rw [Nat.max_comm]
    exact reached.opened_le (Nat.zero_le _)
  · rw [world_eq_calls reached complete]
    exact t.nodup_calls
  · intro place call
    rw [world_eq_calls reached complete]
    exact mem_calls_iff
  · intro σ clock w
    obtain ⟨record, reply, transcript, ended, recorded⟩ :=
      t.run_recording (α := α) clock (fun call => pure (model call)) directory tree w
    obtain rfl := transcript.reply_eq
    obtain ⟨attempts, attempted, same⟩ := ends_iff.mp ended
    refine ⟨?_, ?_⟩
    · rw [same]
      exact t.conclude_sameButTimes directory tree
        ((Attempted.of_reaches reached complete).sameButTimes attempted)
    · rw [recorded, transcript.calls, world_eq_calls reached complete]

/-- A task of two files and, between them, a program that cannot be asked about. -/
def mixed : Task where
  config := ⟨"alias", "", .perFile, [], .c, "", .prf1, none, "*.c", "answers"⟩
  programs := [⟨"a.c", .null, .file "a" .c⟩, ⟨"m", .null, .project "m" "make"⟩,
    ⟨"b.c", .arr [.str "v"], .file "b" .c⟩]
  maxConcurrency := some 2

/-- A model that fails for the first of these files. -/
def halfFailing (call : Call) : Reply :=
  if call.prompt = "a" then .error (.note "HTTP 500") else .ok ["['v']"]

/-- The last file is answered before the first one: the model got two calls, and the run fails as
the one with one call at a time does. -/
theorem conclusion_of_any_order_mixed :
    ∃ s, Schedule.Reaches mixed.callLimit (mixed.work (fun _ => halfFailing) fun _ => True)
        mixed.schedule s ∧ s.Complete ∧ s.done.map Prod.fst = [1, 2, 0] ∧
      s.world = [(0, .ofPrompt "a"), (2, .ofPrompt "b")] ∧
      (mixed.conclude "." s.results (.empty []) : Run (Register Rat)).SameButTimes "." (.empty [])
        ((mixed.run (fun n => (n, n + 1)) (fun call => pure (halfFailing call)) "." (.empty [])
          : StateM Nat _).run 0).1 := by
  let work := mixed.work (fun _ => halfFailing) fun _ => True
  let first : List (Nat × Call) := [(0, .ofPrompt "a")]
  let both : List (Nat × Call) := [(0, .ofPrompt "a"), (2, .ofPrompt "b")]
  have finishes (place : Nat) (p : Program) (found : mixed.programs[place]? = some p)
      (start finish : Nat) (calls : List (Nat × Call)) :
      work.Finishes place calls (p.answered mixed.config start finish halfFailing)
        calls :=
    ⟨⟨p, start, finish, found, trivial, trivial, rfl⟩, rfl⟩
  have begun₀ : Schedule.Step mixed.callLimit work mixed.schedule ⟨[1, 2], [0], [], first⟩ :=
    .begin (by decide) rfl
  have begun₁ : Schedule.Step mixed.callLimit work ⟨[1, 2], [0], [], first⟩
      ⟨[2], [0, 1], [], first⟩ :=
    .begin (by decide) rfl
  have begun₂ (done : List (Nat × Attempt)) :
      Schedule.Step mixed.callLimit work ⟨[2], [0], done, first⟩ ⟨[], [0, 2], done, both⟩ :=
    .begin (by decide) rfl
  have done₁ := @Schedule.Step.finish _ _ mixed.callLimit _ 1 [2] [0] [] [] _ _ _
    (finishes 1 _ rfl 1 2 first)
  have done₂ (done : List (Nat × Attempt)) :=
    @Schedule.Step.finish _ _ mixed.callLimit _ 2 [] [0] [] done _ _ _ (finishes 2 _ rfl 2 5 both)
  have done₀ (done : List (Nat × Attempt)) :=
    @Schedule.Step.finish _ _ mixed.callLimit _ 0 [] [] [] done _ _ _ (finishes 0 _ rfl 0 9 both)
  have reached := ((((((Schedule.Reaches.refl.tail begun₀).tail begun₁).tail done₁).tail
    (begun₂ _)).tail (done₂ _)).tail (done₀ _))
  obtain ⟨-, -, complete⟩ := conclusion_of_any_order (α := Rat) mixed halfFailing "." (.empty [])
    reached
  exact ⟨_, reached, ⟨rfl, rfl⟩, rfl, rfl, ((complete ⟨rfl, rfl⟩).2.2 _ 0).1⟩

end Task

end Assay
