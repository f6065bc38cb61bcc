import Assay.Proofs.FirstFailure
import Assay.Proofs.Suite.Results
import Assay.Proofs.Suite.Schedule
import Assay.Proofs.Task.AnyOrder
import Mathlib.Data.List.Nodup

/-!
# What a run of a suite comes to

Whatever tasks do to the files and report, and whatever the order in which they are done: each
selected task is begun and done once, and what the run comes to depends on what its tasks come to,
on the policy and on the order of the suite alone. What the tasks of a run come to is an assignment
of results to them, and that of `Suite.run` gives each task a result that it may have.
-/

namespace Assay.Suite

variable {tasks : List Task} {Runs : Task → Files.Tree → Run β → Prop} {tree : Files.Tree}
  {state : Schedule World (Except Failure β)} {limit : Nat}

/-! ## Tasks of a schedule -/

theorem flatMap_getElem? (l : List γ) :
    (List.range l.length).flatMap (fun place => (l[place]?).toList) = l := by
  induction l with
  | nil => rfl
  | cons a l ih =>
    rw [List.length_cons, List.range_succ_eq_map, List.flatMap_cons, List.flatMap_map]
    exact congrArg (a :: ·) ih

/-- Once all tasks are done each of them was begun once, in their order. -/
theorem begun_eq (reached : Schedule.Reaches limit (work tasks Runs) (schedule tasks tree) state)
    (complete : state.Complete) : state.world.begun = tasks := by
  have record := reached.record_eq World.begun (fun place => (tasks[place]?).toList) ?_ ?_ complete
  · rw [record, flatMap_getElem?]
    rfl
  · rintro job world changed ⟨t, found, rfl⟩
    rw [found]
    rfl
  · rintro job world result changed ⟨t, run, found, -, -, rfl⟩
    rfl

/-- Once all tasks are done each of them was done once. -/
theorem done_perm (reached : Schedule.Reaches limit (work tasks Runs) (schedule tasks tree) state)
    (complete : state.Complete) : (state.done.map Prod.fst).Perm (List.range tasks.length) := by
  have perm := reached.jobs_perm
  simp only [Schedule.jobs, complete.1, complete.2, schedule, Schedule.start, List.nil_append,
    List.append_nil, List.map_nil] at perm
  exact perm

/-- The results are what the tasks came to, in the order of the tasks. -/
theorem results_eq {assignment : Task → Except Failure β}
    (reached : Schedule.Reaches limit (work tasks Runs) (schedule tasks tree) state)
    (complete : state.Complete)
    (known : ∀ e ∈ state.done, ∃ t, tasks[e.1]? = some t ∧ e.2 = assignment t) :
    state.results = tasks.map assignment := by
  have length := reached.length_results complete
  refine List.ext_getElem? fun place => ?_
  cases found : state.results[place]? with
  | none =>
    rw [List.getElem?_eq_none_iff, length] at found
    rw [List.getElem?_eq_none (by simpa using found)]
  | some result =>
    obtain ⟨t, at_, same⟩ := reached.results_at
      (P := fun place result => ∃ t, tasks[place]? = some t ∧ result = assignment t)
      complete known found
    rw [List.getElem?_map, at_, same]
    rfl

/-- What is true of every run of a task is true of the results of those that are done. -/
theorem done_of {P : Task → Except Failure β → Prop}
    (runs : ∀ {t tree run}, Runs t tree run → P t run.result)
    (reached : Schedule.Reaches limit (work tasks Runs) (schedule tasks tree) state) :
    ∀ e ∈ state.done, ∃ t, tasks[e.1]? = some t ∧ P t e.2 := by
  refine reached.done_of (P := fun place result => ∃ t, tasks[place]? = some t ∧ P t result) ?_
    (List.forall_mem_nil _)
  rintro job world result changed ⟨t, run, found, ran, rfl, -⟩
  exact ⟨t, found, runs ran⟩

/-- A run that is not complete can go on, as long as every task comes to something. -/
theorem exists_step (runs : ∀ t ∈ tasks, ∀ tree, ∃ run, Runs t tree run)
    (reached : Schedule.Reaches tasks.length (work tasks Runs) (schedule tasks tree) state)
    (running : ¬ state.Complete) :
    ∃ next, Schedule.Step tasks.length (work tasks Runs) state next := by
  have inside : ∀ place ∈ state.jobs, ∃ t, tasks[place]? = some t ∧ t ∈ tasks := by
    intro place job
    have bound : place < tasks.length := by
      simpa [schedule, Schedule.start, Schedule.jobs] using reached.jobs_perm.mem_iff.mp job
    exact ⟨tasks[place], List.getElem?_eq_getElem bound, List.getElem_mem bound⟩
  have positive : 0 < tasks.length := by
    rcases Nat.eq_zero_or_pos tasks.length with zero | positive
    · -- without tasks the schedule is complete from its beginning
      have none : state.jobs = [] := by
        have perm := reached.jobs_perm
        rw [schedule, zero] at perm
        exact perm.eq_nil
      simp only [Schedule.jobs, List.append_eq_nil_iff] at none
      exact absurd none.1 running
    · exact positive
  refine Schedule.exists_step positive ?_ ?_ running
  · intro place waiting
    obtain ⟨t, found, -⟩ := inside place (by simp [Schedule.jobs, waiting])
    exact ⟨_, t, found, rfl⟩
  · intro place opened
    obtain ⟨t, found, mem⟩ := inside place (by simp [Schedule.jobs, opened])
    obtain ⟨run, ran⟩ := runs t mem state.world.tree
    exact ⟨_, _, t, run, found, ran, rfl, rfl⟩

/-! ## Policies -/

variable {s : Suite m} {selection : Selection} {assignment : Task → Except Failure β}

theorem close_eq (results : state.results = (s.selected selection).map assignment) :
    s.close selection state =
      ⟨(collect s.policy (outcomesOf (s.selected selection) assignment)).1, state.world.tree,
        state.world.events ++
          (collect s.policy (outcomesOf (s.selected selection) assignment)).2⟩ := by
  rw [close, results, zip_eq_outcomesOf]

/-- To isolate failures gives the tasks that succeeded, and reports each of the others once. -/
theorem close_isolate (policy : s.policy = .isolate)
    (results : state.results = (s.selected selection).map assignment) :
    (∃ register, (s.close selection state).result = .ok register ∧
      register.entries = succeeded (s.selected selection) assignment) ∧
    (s.close selection state).events =
      state.world.events ++ reports (s.selected selection) assignment := by
  rw [close_eq results, policy]
  refine ⟨⟨_, rfl, entries_successes (s.nodup_selected selection)⟩, ?_⟩
  show _ ++ (failures _).map _ = _
  rw [map_failures_eq_reports]

/-- To abort gives all tasks if none failed. -/
theorem close_abort_of_ok (policy : s.policy = .abort)
    (results : state.results = (s.selected selection).map assignment)
    (none : ∀ t ∈ s.selected selection, ∃ value, assignment t = .ok value) :
    ∃ register, (s.close selection state).result = .ok register ∧
      register.entries = succeeded (s.selected selection) assignment := by
  rw [close_eq results, policy]
  refine ⟨successes (outcomesOf (s.selected selection) assignment), ?_,
    entries_successes (s.nodup_selected selection)⟩
  simp only [collect, failures_eq_nil_iff.mpr none]

/-- To abort gives the failure of the first task that failed, in the order of the suite. -/
theorem close_abort_of_first (policy : s.policy = .abort)
    (results : state.results = (s.selected selection).map assignment) {front back : List Task}
    {t : Task} {f : Failure} (split : s.selected selection = front ++ t :: back)
    (before : ∀ u ∈ front, ∃ value, assignment u = .ok value) (failed : assignment t = .error f) :
    (s.close selection state).result = .error f := by
  obtain ⟨rest, first⟩ : ∃ rest, failures (outcomesOf (front ++ t :: back) assignment) =
      (t.name, f) :: rest := failures_of_first before failed
  rw [close_eq results, policy, split]
  simp only [collect, first]

theorem reports_error (tasks : List Task) (assignment : Task → Except Failure β) :
    ∀ e ∈ reports tasks assignment, e.level = .error := by
  intro e mem
  obtain ⟨t, -, reported⟩ := List.mem_filterMap.mp mem
  cases outcome : assignment t with
  | ok value =>
    rw [outcome] at reported
    cases reported
  | error f =>
    rw [outcome] at reported
    rw [← Option.some.inj reported]
    rfl

/-- If tasks report warnings only, the errors of a run are the reports of its failures. -/
theorem errors_of_warnings {events : List Event} (warnings : ∀ e ∈ events, e.level = .warn) :
    (events ++ reports tasks assignment).filter (fun e => e.level = .error) =
      reports tasks assignment := by
  have none : events.filter (fun e => e.level = .error) = [] := by
    rw [List.filter_eq_nil_iff]
    intro e mem
    rw [warnings e mem]
    decide
  have all : (reports tasks assignment).filter (fun e => e.level = .error) =
      reports tasks assignment := by
    rw [List.filter_eq_self]
    intro e mem
    rw [reports_error tasks assignment e mem]
    decide
  rw [List.filter_append, none, all, List.nil_append]

theorem names_succeeded (none : ∀ t ∈ tasks, ∃ value, assignment t = .ok value) :
    (succeeded tasks assignment).map Prod.fst = tasks.map Task.name := by
  induction tasks with
  | nil => rfl
  | cons t tasks ih =>
    obtain ⟨value, succeeds⟩ := none t List.mem_cons_self
    have rest := ih fun u mem => none u (List.mem_cons_of_mem t mem)
    rw [succeeded_cons_ok succeeds, List.map_cons, rest, List.map_cons]

/-- Of tasks that fail one is the first. -/
theorem exists_first_failure (fails : ¬ ∀ t ∈ tasks, ∃ value, assignment t = .ok value) :
    ∃ front t back f, tasks = front ++ t :: back ∧
      (∀ u ∈ front, ∃ value, assignment u = .ok value) ∧ assignment t = .error f := by
  obtain ⟨front, t, back, split, before, lacks⟩ := exists_first fails
  cases outcome : assignment t with
  | ok value => exact absurd ⟨value, outcome⟩ lacks
  | error f => exact ⟨front, t, back, f, split, before, outcome⟩

/-- The runs in which a task comes to what it is assigned, whatever it does to the files and
whatever it reports. -/
def Assigned (assignment : Task → Except Failure β) (t : Task) (_ : Files.Tree) (run : Run β) :
    Prop :=
  run.result = assignment t

/-! ## Assignments -/

/-- What was done by tasks of any kind is done by tasks that come to what they are assigned, if the
assignment is that of the results. -/
theorem reaches_assigned
    (reached : Schedule.Reaches limit (work tasks Runs) (schedule tasks tree) state)
    (known : ∀ e ∈ state.done, ∃ t, tasks[e.1]? = some t ∧ e.2 = assignment t) :
    Schedule.Reaches limit (work tasks (Assigned assignment)) (schedule tasks tree) state := by
  induction reached with
  | refl => exact .refl
  | tail _ step ih =>
    cases step with
    | begin room begins => exact (ih known).tail (.begin room begins)
    | finish finishes =>
      obtain ⟨t, run, found, -, rfl, rfl⟩ := finishes
      obtain ⟨t', found', same⟩ := known _ (List.mem_append_right _ List.mem_cons_self)
      obtain rfl : t = t' := Option.some.inj (found.symm.trans found')
      have earlier := ih fun e mem => known e (List.mem_append_left _ mem)
      exact earlier.tail (.finish ⟨t, run, found, same, rfl, rfl⟩)

/-- The results of different tasks are an assignment. -/
theorem exists_assignment (distinct : tasks.Nodup)
    (reached : Schedule.Reaches limit (work tasks Runs) (schedule tasks tree) state) :
    ∃ assignment : Task → Except Failure β,
      ∀ e ∈ state.done, ∃ t, tasks[e.1]? = some t ∧ e.2 = assignment t := by
  have jobs : state.jobs.Nodup := reached.jobs_perm.nodup_iff.mpr (by
    simpa [schedule, Schedule.start, Schedule.jobs] using List.nodup_range)
  have places : (state.done.map Prod.fst).Nodup := (List.nodup_append.mp jobs).2.1
  have each : ∀ t, ∃ result, ∀ e ∈ state.done, tasks[e.1]? = some t → e.2 = result := by
    intro t
    by_cases done : ∃ e ∈ state.done, tasks[e.1]? = some t
    · obtain ⟨e, mem, found⟩ := done
      refine ⟨e.2, ?_⟩
      intro e' mem' found'
      -- the task stands at one place only, and this place was done once
      have inside := (List.getElem?_eq_some_iff.mp found').1
      have same : e'.1 = e.1 := (List.getElem?_inj inside distinct).mp (found'.trans found.symm)
      exact congrArg Prod.snd (List.inj_on_of_nodup_map places mem' mem same)
    · exact ⟨.error (.note ""), fun e mem found => absurd ⟨e, mem, found⟩ done⟩
  choose assignment agrees using each
  refine ⟨assignment, ?_⟩
  intro e mem
  obtain ⟨t, found, -⟩ := done_of (P := fun _ _ => True) (fun _ => trivial) reached e mem
  exact ⟨t, found, agrees t e mem found⟩

/-- Once all tasks are done, what is assigned to a task is what some run of it came to. -/
theorem exists_run {assignment : Task → Except Failure β}
    (reached : Schedule.Reaches limit (work tasks Runs) (schedule tasks tree) state)
    (complete : state.Complete)
    (known : ∀ e ∈ state.done, ∃ t, tasks[e.1]? = some t ∧ e.2 = assignment t) :
    ∀ t ∈ tasks, ∃ tree run, Runs t tree run ∧ assignment t = run.result := by
  have ran := done_of (P := fun t result => ∃ tree run, Runs t tree run ∧ result = run.result)
    (fun run => ⟨_, _, run, rfl⟩) reached
  intro t mem
  obtain ⟨place, found⟩ := List.mem_iff_getElem?.mp mem
  have inside := (List.getElem?_eq_some_iff.mp found).1
  obtain ⟨e, done, rfl⟩ := List.mem_map.mp
    ((done_perm reached complete).mem_iff.mpr (List.mem_range.mpr inside))
  obtain ⟨t', found', same⟩ := known e done
  obtain ⟨t'', found'', tree, run, runs, result⟩ := ran e done
  obtain rfl : t = t' := Option.some.inj (found.symm.trans found')
  obtain rfl : t = t'' := Option.some.inj (found.symm.trans found'')
  exact ⟨tree, run, runs, same.symm.trans result⟩

/-- What `Suite.run` gives, once the directories are made, is what a run comes to in which each task
has a result that it may have, and reports warnings only. -/
theorem run_assigned [Arithmetic α] {σ : Type} (s : Suite (StateM σ)) (clock : Clock (StateM σ))
    (selection : Selection) (tree : Files.Tree) {prepared : Files.Tree}
    (ready : s.prepare selection tree = (none, prepared)) (w : σ) :
    ∃ (assignment : Task → Except Failure (Register α)) (state : Schedule World _),
      Schedule.Reaches (s.selected selection).length
        (work (s.selected selection) (Assigned assignment))
        (schedule (s.selected selection) prepared) state ∧
      state.Complete ∧
      (∀ t ∈ s.selected selection, ∃ tree run, s.TaskRuns clock t tree run ∧
        assignment t = run.result) ∧
      (∀ e ∈ state.world.events, e.level = .warn) ∧
      ((s.run clock selection tree : StateM σ (Run (Register (Register α)))).run w).1 =
        s.close selection state := by
  have ended := s.run_ends (α := α) clock selection tree w
  generalize ((s.run clock selection tree : StateM σ (Run (Register (Register α)))).run w).1 = run
    at ended ⊢
  cases ended with
  | unprepared unready =>
    rw [ready] at unready
    cases unready
  | @finished _ state ready' reached complete =>
    obtain rfl := congrArg Prod.snd (ready.symm.trans ready')
    have distinct : (s.selected selection).Nodup := (s.nodup_selected selection).of_map _
    obtain ⟨assignment, known⟩ := exists_assignment distinct reached
    exact ⟨assignment, state, reaches_assigned reached known, complete,
      exists_run reached complete known, warns_of_reaches reached, rfl⟩

/-- **What a run of a suite means**, for every assignment of results to tasks and every order in
which the selected tasks are done, once the directories are made. A run that is not complete can go
on. In a complete one each selected task was begun and done once, and no other; to isolate failures
gives the tasks that succeeded, in the order of the suite, and one report for each of the others; to
abort gives all tasks, in that order, exactly if none failed, and else the failure of the first one
in the order of the suite. -/
theorem run_meaning (s : Suite m) (selection : Selection) (tree : Files.Tree)
    {prepared : Files.Tree} (ready : s.prepare selection tree = (none, prepared))
    (assignment : Task → Except Failure β) {state : Schedule World (Except Failure β)}
    (reached : Schedule.Reaches (s.selected selection).length
      (work (s.selected selection) (Assigned assignment))
      (schedule (s.selected selection) prepared) state) :
    (¬ state.Complete → ∃ next, Schedule.Step (s.selected selection).length
      (work (s.selected selection) (Assigned assignment)) state next) ∧
    (state.Complete →
      s.Ends selection (Assigned assignment) tree (s.close selection state) ∧
      state.world.begun = s.selected selection ∧
      (state.done.map Prod.fst).Perm (List.range (s.selected selection).length) ∧
      (s.policy = .isolate →
        (∃ register, (s.close selection state).result = .ok register ∧
          register.entries = succeeded (s.selected selection) assignment) ∧
        (s.close selection state).events =
          state.world.events ++ reports (s.selected selection) assignment ∧
        ((∀ e ∈ state.world.events, e.level = .warn) →
          (s.close selection state).events.filter (fun e => e.level = .error) =
            reports (s.selected selection) assignment)) ∧
      (s.policy = .abort →
        ((∃ register, (s.close selection state).result = .ok register) ↔
          ∀ t ∈ s.selected selection, ∃ value, assignment t = .ok value) ∧
        (∀ register, (s.close selection state).result = .ok register →
          register.entries = succeeded (s.selected selection) assignment ∧
          register.names = (s.selected selection).map Task.name) ∧
        ∀ front t back f, s.selected selection = front ++ t :: back →
          (∀ u ∈ front, ∃ value, assignment u = .ok value) → assignment t = .error f →
          (s.close selection state).result = .error f)) := by
  refine ⟨exists_step (fun t _ tree => ⟨⟨assignment t, tree, []⟩, rfl⟩) reached, fun complete => ?_⟩
  have results := results_eq reached complete
    (done_of (P := fun t result => result = assignment t) (fun ran => ran) reached)
  refine ⟨.finished ready reached complete, begun_eq reached complete, done_perm reached complete,
    ?_, ?_⟩
  · intro policy
    obtain ⟨register, events⟩ := close_isolate policy results
    refine ⟨register, events, fun warnings => ?_⟩
    rw [events]
    exact errors_of_warnings warnings
  · intro policy
    -- the first task that failed, if there is one, decides
    have none_of_ok {register : Register β}
        (closed : (s.close selection state).result = .ok register) :
        ∀ t ∈ s.selected selection, ∃ value, assignment t = .ok value := by
      apply Classical.byContradiction
      intro fails
      obtain ⟨front, t, back, f, split, before, failed⟩ := exists_first_failure fails
      rw [close_abort_of_first policy results split before failed] at closed
      cases closed
    refine ⟨⟨fun ⟨_, closed⟩ => none_of_ok closed, ?_⟩, ?_, ?_⟩
    · intro none
      obtain ⟨register, closed, -⟩ := close_abort_of_ok policy results none
      exact ⟨register, closed⟩
    · intro register closed
      have none := none_of_ok closed
      obtain ⟨register', closed', entries⟩ := close_abort_of_ok policy results none
      obtain rfl : register' = register := Except.ok.inj (closed'.symm.trans closed)
      refine ⟨entries, ?_⟩
      rw [Register.names, entries]
      exact names_succeeded none
    · intro front t back f split before failed
      exact close_abort_of_first policy results split before failed

/-- Two tasks, of which the second one has only the last program of the first one. -/
def twins (policy : FailurePolicy) : Suite (StateM Unit) where
  model call := pure (Task.halfFailing call)
  tasks := [Task.mixed,
    ⟨{ Task.mixed.config with name := "points" }, Task.mixed.programs.drop 2, none⟩]
  output := "out"
  policy := policy
  wellNamed := by decide

/-- An assignment of results in which the first of the two tasks fails. -/
def firstFails (t : Task) : Except Failure Nat :=
  if t.name = "alias" then .error (.note "HTTP 500") else .ok 1

/-- The second task is done before the first one. -/
theorem reaches_twins :
    ∃ (prepared : Files.Tree) (state : Schedule World (Except Failure Nat)),
      (twins .isolate).prepare .all (.empty []) = (none, prepared) ∧
      Schedule.Reaches 2 (work (twins .isolate).tasks (Assigned firstFails))
        (schedule (twins .isolate).tasks prepared) state ∧
      state.Complete ∧ state.done.map Prod.fst = [1, 0] ∧ state.world.events = [] := by
  obtain ⟨prepared, ready⟩ : ∃ prepared,
      (twins .isolate).prepare .all (.empty []) = (none, prepared) := ⟨_, rfl⟩
  let tasks := (twins .isolate).tasks
  let jobs := work tasks (Assigned firstFails)
  have begins (place : Nat) (t : Task) (found : tasks[place]? = some t) (world : World) :
      jobs.Begins place world { world with begun := world.begun ++ [t] } :=
    ⟨t, found, rfl⟩
  have finishes (place : Nat) (t : Task) (found : tasks[place]? = some t) (world : World) :
      jobs.Finishes place world (firstFails t) world :=
    ⟨t, ⟨firstFails t, world.tree, []⟩, found, rfl, rfl, by rw [List.append_nil]⟩
  have begun₀ := @Schedule.Step.begin _ _ 2 jobs 0 [1] [] [] ⟨[], prepared, []⟩ _ (by decide)
    (begins 0 _ rfl _)
  have begun₁ (world : World) := @Schedule.Step.begin _ _ 2 jobs 1 [] [0] [] world _ (by decide)
    (begins 1 _ rfl world)
  have done₁ (world : World) := @Schedule.Step.finish _ _ 2 jobs 1 [] [0] [] [] _ world world
    (finishes 1 _ rfl world)
  have done₀ (done : List (Nat × Except Failure Nat)) (world : World) :=
    @Schedule.Step.finish _ _ 2 jobs 0 [] [] [] done _ world world (finishes 0 _ rfl world)
  have reached := (((Schedule.Reaches.refl.tail begun₀).tail (begun₁ _)).tail (done₁ _)).tail
    (done₀ _ _)
  exact ⟨prepared, _, ready, reached, ⟨rfl, rfl⟩, rfl, rfl⟩

/-- The first task fails and is left out: when it is done after the second one, and when the tasks
are run one call at a time. -/
theorem run_meaning_twins :
    (∃ (prepared : Files.Tree) (state : Schedule World (Except Failure Nat)),
      (twins .isolate).prepare .all (.empty []) = (none, prepared) ∧
      Schedule.Reaches 2 (work (twins .isolate).tasks (Assigned firstFails))
        (schedule (twins .isolate).tasks prepared) state ∧
      state.Complete ∧ state.done.map Prod.fst = [1, 0] ∧
      (∃ register, ((twins .isolate).close .all state).result = .ok register ∧
        register.entries = [("points", 1)]) ∧
      ((twins .isolate).close .all state).events = [.taskFailed "alias" "HTTP 500"]) ∧
    ∃ (run : Run (Register (Register Rat))) (assignment : Task → Except Failure (Register Rat)),
      run = (((twins .isolate).run (pure 0) .all (.empty []) : StateM Unit _).run ()).1 ∧
      (∃ register, run.result = .ok register ∧ register.names = ["points"] ∧
        register.entries = succeeded (twins .isolate).tasks assignment) ∧
      run.events.filter (fun e => e.level = .error) = [.taskFailed "alias"
        "Task `alias` failed: Model call failed for a.c: HTTP 500"] ∧
      run.events.filter (fun e => e.level = .error) = reports (twins .isolate).tasks assignment := by
  obtain ⟨prepared, state, ready, reached, done, order, quiet⟩ := reaches_twins
  refine ⟨⟨prepared, state, ready, reached, done, order, ?_⟩, ?_⟩
  · obtain ⟨-, complete⟩ := run_meaning (twins .isolate) .all (.empty []) ready firstFails reached
    obtain ⟨-, -, -, isolate, -⟩ := complete done
    obtain ⟨register, events, -⟩ := isolate rfl
    rw [quiet] at events
    exact ⟨register, events⟩
  · obtain ⟨assignment, state, reached, done, -, warnings, same⟩ :=
      run_assigned (α := Rat) (twins .isolate) (pure 0) .all (.empty []) ready ()
    obtain ⟨-, complete⟩ := run_meaning (twins .isolate) .all (.empty []) ready assignment reached
    obtain ⟨-, -, -, isolate, -⟩ := complete done
    obtain ⟨⟨register, succeeds, entries⟩, -, errors⟩ := isolate rfl
    rw [← same] at succeeds errors
    refine ⟨_, assignment, rfl, ⟨register, succeeds, ?_, entries⟩, ?_, errors warnings⟩
    · have names : ((twins .isolate).run (pure 0) .all (.empty []) :
          StateM Unit (Run (Register (Register Rat)))).run () |>.1.result.toOption.map
            Register.names = some ["points"] := by decide +kernel
      rw [succeeds] at names
      exact Option.some.inj names
    · decide +kernel

end Assay.Suite
