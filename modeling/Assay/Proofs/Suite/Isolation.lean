import Assay.Proofs.Files.Making
import Assay.Proofs.Suite.Policy
import Assay.Proofs.Suite.Schedule

/-!
# Tasks do not influence one another

The logs of different tasks of a suite have different slots, so a task that is done writes over no
log but its own, and its log stays where it is while others are done. What a task comes to depends
on its programs and on the replies they get. So two runs that both include a task give it the same
result and the same log but for times, whatever other tasks they include.
-/

namespace Assay

/-! ## Directories -/

namespace Suite

theorem inIdentifier_of_mem {name : String} (h : isIdentifier name = true) :
    name.toList ≠ [] ∧ ∀ c ∈ name.toList, inIdentifier c = true := by
  unfold isIdentifier at h
  cases chars : name.toList with
  | nil =>
    rw [chars] at h
    cases h
  | cons c rest =>
    rw [chars] at h
    simp only [Bool.and_eq_true, List.all_eq_true] at h
    refine ⟨List.cons_ne_nil c rest, List.forall_mem_cons.mpr ⟨?_, h.2⟩⟩
    rw [inIdentifier, h.1, Bool.true_or]

/-- An identifier is a single part of a path, and leads to an entry of its own. -/
theorem part_of_isIdentifier {name : String} (h : isIdentifier name = true) :
    '/' ∉ name.toList ∧ name ≠ "" ∧ name ≠ "." ∧ name ≠ ".." := by
  obtain ⟨nonempty, all⟩ := inIdentifier_of_mem h
  refine ⟨?_, ?_, ?_, ?_⟩
  · intro slash
    exact absurd (all '/' slash) (by decide)
  · rintro rfl
    exact nonempty rfl
  · rintro rfl
    exact absurd (all '.' (by decide)) (by decide)
  · rintro rfl
    exact absurd (all '.' (by decide)) (by decide)

variable {s : Suite m} {t u : Task} {tree : Files.Tree}

/-- The slot of the log of a task lies in the directory of the task, which lies in the output
directory. -/
theorem slot_eq (mem : t ∈ s.tasks) {place : Files.Place}
    (h : tree.slot (Log.path (s.logDirectory t)) = .ok place) :
    ∃ base, tree.destination s.output = .ok base ∧ place = base ++ [t.name, Log.fileName] := by
  obtain ⟨noSlash, named, dot, dots⟩ := part_of_isIdentifier (s.isIdentifier_name mem)
  obtain ⟨own, leads, rfl⟩ := Files.Tree.slot_join (by decide) h
  have solid := decide_eq_true (not_or.mpr ⟨named, dot⟩)
  obtain ⟨base, output, rfl⟩ := Files.Tree.destination_join noSlash solid dots leads
  exact ⟨base, output, by rw [List.append_assoc]; rfl⟩

/-- The logs of tasks of different names have different slots. -/
theorem slot_ne (first : t ∈ s.tasks) (second : u ∈ s.tasks) (differ : t.name ≠ u.name)
    {place place' : Files.Place} (h : tree.slot (Log.path (s.logDirectory t)) = .ok place)
    (h' : tree.slot (Log.path (s.logDirectory u)) = .ok place') : place ≠ place' := by
  obtain ⟨base, output, rfl⟩ := slot_eq first h
  obtain ⟨base', output', rfl⟩ := slot_eq second h'
  obtain rfl : base = base' := Except.ok.inj (output.symm.trans output')
  intro same
  exact differ (List.cons.inj (List.append_cancel_left same)).1

/-! ## Logs of tasks -/

/-- A tree has the log of a task, with the traces of some attempts, in its slot. -/
def Recorded (s : Suite m) (tree : Files.Tree) (t : Task) (attempts : List Attempt) : Prop :=
  ∃ place, tree.slot (Log.path (s.logDirectory t)) = .ok place ∧
    tree.look place = some (.file (.text (Log.text (attempts.map Attempt.trace))))

theorem Recorded.readText {attempts : List Attempt} (h : s.Recorded tree t attempts) :
    tree.readText (Log.path (s.logDirectory t)) =
      .ok (Log.text (attempts.map Attempt.trace)) :=
  Files.Tree.Keeps.readText h

/-- A task that is done has its log recorded. -/
theorem recorded_put {place : Files.Place}
    (slot : tree.slot (Log.path (s.logDirectory t)) = .ok place) (attempts : List Attempt) :
    s.Recorded (tree.put place (.file (.text (Log.text (attempts.map Attempt.trace))))) t
      attempts :=
  Files.Tree.keeps_put slot _

/-- The log of a task is still recorded after another task is done. -/
theorem Recorded.put {attempts : List Attempt} {content : Files.Content} {place : Files.Place}
    (h : s.Recorded tree t attempts) (first : t ∈ s.tasks) (second : u ∈ s.tasks)
    (differ : t.name ≠ u.name) (slot : tree.slot (Log.path (s.logDirectory u)) = .ok place) :
    s.Recorded (tree.put place (.file content)) t attempts :=
  Files.Tree.Keeps.put h (Files.Tree.slot_free slot) fun own =>
    slot_ne first second differ own slot rfl

end Suite

/-! ## What a task comes to -/

namespace Task

variable [Arithmetic α] {t : Task} {model : Call → Reply}

/-- What a task comes to if its log can be written and the replies are a function of the calls. -/
def outcome (t : Task) (model : Call → Reply) : Except Failure (Register α) :=
  t.verdict (t.programs.map fun p => p.answered t.config 0 0 model)

theorem attempted_map (t : Task) (model : Call → Reply) :
    t.Attempted (fun _ => model) (· = 0)
      (t.programs.map fun p => p.answered t.config 0 0 model) where
  length := List.length_map _
  yields := by
    intro place attempt found
    rw [List.getElem?_map, Option.map_eq_some_iff] at found
    obtain ⟨p, program, rfl⟩ := found
    exact ⟨p, 0, 0, program, rfl, rfl, rfl⟩

/-- The verdict over attempts does not depend on when they were made. -/
theorem Attempted.verdict_eq {Tells : Nat → Prop} {attempts : List Attempt}
    (h : t.Attempted (fun _ => model) Tells attempts) :
    (t.verdict attempts : Except Failure (Register α)) = t.outcome model :=
  t.verdict_eq_of_sameButTimes (h.sameButTimes (attempted_map t model))

end Task

namespace Suite

variable [Arithmetic α] {σ : Type} {s : Suite (StateM σ)} {clock : Clock (StateM σ)}
  {model : Call → Reply} {tasks : List Task} {limit : Nat}
  {state next : Schedule World (Except Failure (Register α))}

/-- If every log can be written, the task that is done comes to the verdict over some attempts,
with its log in the slot. -/
theorem TaskRuns.of_slot
    (functional : ∀ call reply, Answers s.model call reply → reply = model call) {t : Task}
    {tree : Files.Tree} {run : Run (Register α)} (h : s.TaskRuns clock t tree run)
    {place : Files.Place} (slot : tree.slot (Log.path (s.logDirectory t)) = .ok place) :
    ∃ attempts, t.Attempted (fun _ => model) (Told clock) attempts ∧
      run.result = t.verdict attempts ∧
      run.tree = tree.put place (.file (.text (Log.text (attempts.map Attempt.trace)))) := by
  obtain ⟨reply, answers, ended⟩ := h
  have same : reply = fun _ => model := by
    funext place call
    exact functional call _ (answers place call)
  rw [same] at ended
  obtain ⟨attempts, attempted, rfl⟩ := Task.ends_iff.mp ended
  exact ⟨attempts, attempted, Task.conclude_result_of_slot slot attempts,
    Task.conclude_tree_of_slot slot attempts⟩

/-- What holds at all times of a run in which every log can be written: this is so, and every task
that is done came to its verdict and has its log recorded. -/
structure Settled (s : Suite (StateM σ)) (model : Call → Reply) (clock : Clock (StateM σ))
    (tasks : List Task) (state : Schedule World (Except Failure (Register α))) : Prop where
  nodup : state.jobs.Nodup
  slots : ∀ t ∈ tasks, ∃ place,
    state.world.tree.slot (Log.path (s.logDirectory t)) = .ok place
  done : ∀ e ∈ state.done, ∃ t attempts, tasks[e.1]? = some t ∧
    t.Attempted (fun _ => model) (Told clock) attempts ∧ e.2 = t.verdict attempts ∧
    s.Recorded state.world.tree t attempts

/-- Tasks of one name stand at one place. -/
theorem place_unique (within : tasks.Sublist s.tasks) {t u : Task} {place place' : Nat}
    (found : tasks[place]? = some t) (found' : tasks[place']? = some u) (names : t.name = u.name) :
    place = place' := by
  have distinct := s.nodup_names.sublist (within.map Task.name)
  have bound : place < (tasks.map Task.name).length := by
    rw [List.length_map]
    exact (List.getElem?_eq_some_iff.mp found).1
  apply (List.getElem?_inj bound distinct).mp
  rw [List.getElem?_map, List.getElem?_map, found, found']
  exact congrArg some names

theorem Settled.step (within : tasks.Sublist s.tasks)
    (functional : ∀ call reply, Answers s.model call reply → reply = model call)
    (h : Schedule.Step limit (work tasks (s.TaskRuns clock)) state next)
    (settled : s.Settled model clock tasks state) : s.Settled model clock tasks next := by
  have nodup : next.jobs.Nodup := h.jobs_perm.nodup_iff.mpr settled.nodup
  cases h with
  | begin room begins =>
    obtain ⟨t, -, rfl⟩ := begins
    exact ⟨nodup, settled.slots, settled.done⟩
  | @finish job waiting before after done result world changed finishes =>
    obtain ⟨t, run, found, ran, rfl, rfl⟩ := finishes
    have mem : t ∈ tasks := List.mem_of_getElem? found
    obtain ⟨place, slot⟩ := settled.slots t mem
    obtain ⟨attempts, attempted, result, left⟩ := ran.of_slot functional slot
    refine ⟨nodup, ?_, ?_⟩
    -- a log stays writable after a file was put into a slot
    · intro u member
      obtain ⟨own, slot'⟩ := settled.slots u member
      refine ⟨own, ?_⟩
      show run.tree.slot _ = .ok own
      rw [left]
      exact Files.Tree.slot_put_file slot' (Files.Tree.slot_free slot)
    -- only the log of the task that is done is written over
    · intro e member
      show ∃ u as, _ ∧ _ ∧ _ ∧ s.Recorded run.tree u as
      rw [left]
      rcases List.mem_append.mp member with earlier | last
      · obtain ⟨u, as, found', attempted', result', recorded⟩ := settled.done e earlier
        refine ⟨u, as, found', attempted', result', ?_⟩
        have member' : u ∈ tasks := List.mem_of_getElem? found'
        refine recorded.put (within.subset member') (within.subset mem) ?_ slot
        -- the place of the task was open and that of the other one done
        intro names
        have differ := (List.nodup_append.mp settled.nodup).2.2 job
          (List.mem_append_right _ (List.mem_append_right _ List.mem_cons_self)) e.1
          (List.mem_map_of_mem earlier)
        exact differ (place_unique within found found' names.symm)
      · rw [List.mem_singleton.mp last]
        exact ⟨t, attempts, found, attempted, result, recorded_put slot attempts⟩

/-- A run in which every log can be written at its beginning is settled at all times. -/
theorem settled_of_reaches (within : tasks.Sublist s.tasks)
    (functional : ∀ call reply, Answers s.model call reply → reply = model call)
    {prepared : Files.Tree}
    (slots : ∀ t ∈ tasks, ∃ place, prepared.slot (Log.path (s.logDirectory t)) = .ok place)
    (reached : Schedule.Reaches limit (work tasks (s.TaskRuns clock)) (schedule tasks prepared)
      state) : s.Settled model clock tasks state := by
  refine reached.keeps (s.Settled model clock tasks) ⟨?_, slots, List.forall_mem_nil _⟩
    (Settled.step within functional)
  simp only [Schedule.jobs, schedule, Schedule.start, List.map_nil, List.append_nil]
  exact List.nodup_range

/-- What the selected tasks come to together, if each of them comes to its outcome. -/
def outcome (s : Suite m) (selection : Selection) (model : Call → Reply) :
    Except Failure (Register (Register α)) :=
  (collect s.policy (outcomesOf (s.selected selection) (Task.outcome · model))).1

/-- Whether everything can be written that a run writes: the directories can be made, and then the
log of each selected task can be written. -/
def Writable (s : Suite m) (selection : Selection) (tree : Files.Tree) : Prop :=
  ∃ prepared, s.prepare selection tree = (none, prepared) ∧
    ∀ t ∈ s.selected selection, ∃ text written,
      prepared.writeText (Log.path (s.logDirectory t)) text = .ok written

/-- If everything can be written, then the logs have slots once the directories are made. -/
theorem Writable.slots {s : Suite m} {selection : Selection} {tree : Files.Tree}
    (h : s.Writable selection tree) :
    ∃ prepared, s.prepare selection tree = (none, prepared) ∧
      ∀ t ∈ s.selected selection, ∃ place,
        prepared.slot (Log.path (s.logDirectory t)) = .ok place := by
  obtain ⟨prepared, ready, texts⟩ := h
  refine ⟨prepared, ready, fun t mem => ?_⟩
  obtain ⟨text, written, wrote⟩ := texts t mem
  obtain ⟨place, slot, -⟩ := Files.Tree.exists_slot_of_writeText wrote
  exact ⟨place, slot⟩

/-- What a run comes to and leaves, if the directories can be made and then every log can be
written: the selected tasks come to their outcomes, and the log of each of them is recorded. -/
theorem Ends.of_slots
    (functional : ∀ call reply, Answers s.model call reply → reply = model call)
    {selection : Selection} {tree prepared : Files.Tree} {run : Run (Register (Register α))}
    (ready : s.prepare selection tree = (none, prepared))
    (slots : ∀ t ∈ s.selected selection, ∃ place,
      prepared.slot (Log.path (s.logDirectory t)) = .ok place)
    (ended : s.Ends selection (s.TaskRuns clock) tree run) :
    run.result = s.outcome selection model ∧
    ∀ t ∈ s.selected selection, ∃ attempts,
      t.Attempted (fun _ => model) (Told clock) attempts ∧ s.Recorded run.tree t attempts := by
  cases ended with
  | unprepared failed =>
    rw [ready] at failed
    cases failed
  | @finished prepared' state ready' reached complete =>
    obtain rfl : prepared = prepared' := by
      rw [ready] at ready'
      exact (Prod.mk.inj ready').2
    have settled := settled_of_reaches (s.selected_sublist selection) functional slots reached
    have results : state.results = (s.selected selection).map (Task.outcome · model) := by
      refine results_eq reached complete fun e mem => ?_
      obtain ⟨t, attempts, found, attempted, result, -⟩ := settled.done e mem
      exact ⟨t, found, result.trans attempted.verdict_eq⟩
    rw [close_eq results]
    refine ⟨rfl, ?_⟩
    intro t mem
    obtain ⟨place, found⟩ := List.mem_iff_getElem?.mp mem
    have done : place ∈ state.done.map Prod.fst := by
      refine (done_perm reached complete).mem_iff.mpr (List.mem_range.mpr ?_)
      exact (List.getElem?_eq_some_iff.mp found).1
    obtain ⟨e, member, rfl⟩ := List.mem_map.mp done
    obtain ⟨u, attempts, found', attempted, -, recorded⟩ := settled.done e member
    obtain rfl : t = u := Option.some.inj (found.symm.trans found')
    exact ⟨attempts, attempted, recorded⟩

/-- A run to isolate failures comes to the outcomes of the selected tasks that succeed, in the order
of the suite. -/
theorem Ends.of_writable (policy : s.policy = .isolate)
    (functional : ∀ call reply, Answers s.model call reply → reply = model call)
    {selection : Selection} {tree : Files.Tree} {run : Run (Register (Register α))}
    (writable : s.Writable selection tree) (ended : s.Ends selection (s.TaskRuns clock) tree run) :
    (∃ register, run.result = .ok register ∧
      register.entries = succeeded (s.selected selection) (Task.outcome · model)) ∧
    ∀ t ∈ s.selected selection, ∃ attempts,
      t.Attempted (fun _ => model) (Told clock) attempts ∧ s.Recorded run.tree t attempts := by
  obtain ⟨prepared, ready, slots⟩ := writable.slots
  obtain ⟨result, logs⟩ := ended.of_slots functional ready slots
  refine ⟨⟨_, ?_, entries_successes (s.nodup_selected selection)⟩, logs⟩
  rw [result, outcome, policy]
  rfl

/-- **Tasks do not influence one another.** Take two runs of a suite to isolate failures, each with
a selection, a clock and files of its own, in which everything can be written, with a model whose
replies are a function of the calls. Both come to results. A task that both selections include gets
the same metrics in both, or none in both, and its logs are the same but for times. If the first
selection includes no more tasks than the second one, then its results are those of the second one
at the selected names, in the same order. -/
theorem tasks_do_not_interfere (s : Suite (StateM σ)) (model : Call → Reply)
    (clock clock' : Clock (StateM σ)) (selection selection' : Selection) (tree tree' : Files.Tree)
    {run run' : Run (Register (Register α))} (policy : s.policy = .isolate)
    (functional : ∀ call reply, Answers s.model call reply → reply = model call)
    (writable : s.Writable selection tree) (writable' : s.Writable selection' tree')
    (ended : s.Ends selection (s.TaskRuns clock) tree run)
    (ended' : s.Ends selection' (s.TaskRuns clock') tree' run') :
    ∃ register register', run.result = .ok register ∧ run'.result = .ok register' ∧
      (∀ t ∈ s.tasks, selection.includes t.name = true → selection'.includes t.name = true →
        register.get? t.name = register'.get? t.name ∧
        ∃ traces traces', List.Forall₂ Trace.SameButTimes traces traces' ∧
          run.tree.readText (Log.path (s.logDirectory t)) = .ok (Log.text traces) ∧
          run'.tree.readText (Log.path (s.logDirectory t)) = .ok (Log.text traces')) ∧
      ((∀ t ∈ s.tasks, selection.includes t.name = true → selection'.includes t.name = true) →
        register.entries = register'.entries.filter fun e => selection.includes e.1) := by
  obtain ⟨⟨register, result, entries⟩, logs⟩ := ended.of_writable policy functional writable
  obtain ⟨⟨register', result', entries'⟩, logs'⟩ := ended'.of_writable policy functional writable'
  refine ⟨register, register', result, result', ?_, ?_⟩
  · intro t mem included included'
    have selected := s.mem_selected.mpr ⟨mem, included⟩
    have selected' := s.mem_selected.mpr ⟨mem, included'⟩
    refine ⟨?_, ?_⟩
    · rw [Register.get?, Register.get?, entries, entries',
        lookup_succeeded (s.nodup_selected selection) selected,
        lookup_succeeded (s.nodup_selected selection') selected']
    · obtain ⟨attempts, attempted, recorded⟩ := logs t selected
      obtain ⟨attempts', attempted', recorded'⟩ := logs' t selected'
      exact ⟨_, _, forall₂_trace (attempted.sameButTimes attempted'), recorded.readText,
        recorded'.readText⟩
  · intro fewer
    rw [entries, entries', s.selected_eq_filter fewer]
    exact succeeded_filter selection.includes _ _

/-- In the empty tree everything can be written. -/
theorem writable_twins : (twins .isolate).Writable .all (.empty []) := by
  have made : ((twins .isolate).prepare .all (.empty [])).1.isNone = true := by decide +kernel
  have wrote : ∀ t ∈ (twins .isolate).selected .all,
      (((twins .isolate).prepare .all (.empty [])).2.writeText
        (Log.path ((twins .isolate).logDirectory t)) "").isOk = true := by
    decide +kernel
  rcases ready : (twins .isolate).prepare .all (.empty []) with ⟨fault, prepared⟩
  rw [ready] at made wrote
  obtain rfl : fault = none := Option.isNone_iff_eq_none.mp made
  exact ⟨prepared, ready, fun t mem => ⟨"", isOk_iff_exists.mp (wrote t mem)⟩⟩

/-- The second of two tasks alone, and after the first one, which fails. -/
theorem tasks_do_not_interfere_twins :
    ∃ (run run' : Run (Register (Register Rat))) (register register' : Register (Register Rat)),
      run = (((twins .isolate).run (pure 0) (.only ["points"]) (.empty [])
        : StateM Unit _).run ()).1 ∧
      run' = (((twins .isolate).run (pure 0) .all (.empty []) : StateM Unit _).run ()).1 ∧
      run.result = .ok register ∧ run'.result = .ok register' ∧
      register.get? "points" = register'.get? "points" ∧
      register.entries = register'.entries.filter fun e => ["points"].contains e.1 := by
  have functional : ∀ call reply, Answers (twins .isolate).model call reply →
      reply = Task.halfFailing call := by
    rintro call reply ⟨_, rfl⟩
    rfl
  have writable : (twins .isolate).Writable (.only ["points"]) (.empty []) :=
    ⟨_, rfl, List.forall_mem_singleton.mpr ⟨"", _, rfl⟩⟩
  obtain ⟨register, register', result, result', alike, restricted⟩ :=
    tasks_do_not_interfere (α := Rat) (twins .isolate) Task.halfFailing (pure 0) (pure 0)
      (.only ["points"]) .all (.empty []) (.empty []) rfl functional writable writable_twins
      (run_ends _ _ _ _ ()) (run_ends _ _ _ _ ())
  have points : ∃ t ∈ (twins .isolate).tasks, t.name = "points" :=
    ⟨_, List.mem_cons_of_mem _ List.mem_cons_self, rfl⟩
  obtain ⟨t, mem, named⟩ := points
  refine ⟨_, _, register, register', rfl, rfl, result, result', ?_, restricted fun _ _ _ => rfl⟩
  rw [← named]
  exact (alike t mem (by rw [named]; decide) rfl).1

end Suite

end Assay
