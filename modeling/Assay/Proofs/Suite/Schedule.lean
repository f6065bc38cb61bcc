import Assay.Proofs.Task.Conclusion
import Assay.Proofs.Task.Schedule
import Assay.Suite.Schedule

/-!
# Runs of the tasks of a suite

What `Suite.run` gives, with a clock and a model whose answers depend on some state, is what a run
may end in that makes all calls of a task before those of the next one. In every run the tasks
themselves report warnings only: the errors that are reported are those of the suite.
-/

namespace Assay

/-! ## Warnings -/

/-- What is reported of an attempt is a warning. -/
theorem Program.answered_warns (p : Program) (config : TaskConfig) (start finish : Nat)
    (model : Call → Reply) :
    ∀ e ∈ (p.answered config start finish model).events, e.level = .warn := by
  intro e mem
  rcases Warning.of_answered mem with _ | ⟨_, _⟩ | ⟨_, _⟩ <;> rfl

theorem averageEvents_warns [Arithmetic α] (results : List (Register α)) :
    ∀ e ∈ averageEvents results, e.level = .warn := by
  intro e mem
  cases results with
  | nil => cases mem
  | cons first rest =>
    obtain ⟨metric, -, missing⟩ := List.mem_flatMap.mp mem
    obtain ⟨⟨r, place⟩, -, reported⟩ := List.mem_filterMap.mp missing
    dsimp only at reported
    split at reported
    · rw [← Option.some.inj reported]
      rfl
    · cases reported

/-- A task reports warnings only. -/
theorem Task.Ends.warns [Arithmetic α] {t : Task} {reply : Nat → Call → Reply} {Tells : Nat → Prop}
    {directory : String} {tree : Files.Tree} {run : Run (Register α)}
    (h : t.Ends reply Tells directory tree run) : ∀ e ∈ run.events, e.level = .warn := by
  obtain ⟨attempts, attempted, rfl⟩ := ends_iff.mp h
  intro e mem
  rw [conclude_events_eq] at mem
  rcases List.mem_append.mp mem with made | averaged
  · obtain ⟨attempt, member, reported⟩ := List.mem_flatMap.mp made
    obtain ⟨place, found⟩ := List.mem_iff_getElem?.mp member
    obtain ⟨p, start, finish, -, -, -, rfl⟩ := attempted.yields found
    exact p.answered_warns _ _ _ _ e reported
  · split at averaged
    · exact averageEvents_warns _ e averaged
    · cases averaged

namespace Suite

variable [Arithmetic α] {σ : Type} {s : Suite (StateM σ)} {clock : Clock (StateM σ)}

/-- While the tasks of a suite run nothing but warnings is reported. -/
theorem warns_of_reaches {tasks : List Task} {prepared : Files.Tree} {limit : Nat}
    {state : Schedule World (Except Failure (Register α))}
    (reached : Schedule.Reaches limit (work tasks (s.TaskRuns clock)) (schedule tasks prepared)
      state) : ∀ e ∈ state.world.events, e.level = .warn := by
  refine reached.keeps (fun state => ∀ e ∈ state.world.events, e.level = .warn)
    (List.forall_mem_nil _) ?_
  intro a b step warns
  cases step with
  | begin _ begins =>
    obtain ⟨t, -, rfl⟩ := begins
    exact warns
  | finish finishes =>
    obtain ⟨t, run, -, ⟨reply, -, ended⟩, -, rfl⟩ := finishes
    intro e mem
    rcases List.mem_append.mp mem with earlier | last
    · exact warns e earlier
    · exact ended.warns e last

/-! ## The run that makes one call at a time -/

/-- Going through a list in a state gives results of which each is related to its element, if this
is so in every state. -/
theorem forall₂_mapM_run {σ : Type} {f : γ → StateM σ β} {P : γ → β → Prop}
    (h : ∀ a w, P a ((f a).run w).1) (l : List γ) (w : σ) :
    List.Forall₂ P l ((l.mapM f).run w).1 := by
  induction l generalizing w with
  | nil => exact .nil
  | cons a rest ih =>
    rw [List.mapM_cons]
    exact .cons (h a w) (ih _)

/-- A task with attempts that were made at it, for some replies that the model may give. -/
def Tried (s : Suite (StateM σ)) (clock : Clock (StateM σ)) (t : Task) (e : Task × List Attempt) :
    Prop :=
  e.1 = t ∧ ∃ reply, (∀ place call, Answers s.model call (reply place call)) ∧
    t.Attempted reply (Told clock) e.2

theorem tried_mapM (s : Suite (StateM σ)) (clock : Clock (StateM σ)) (tasks : List Task) (w : σ) :
    List.Forall₂ (s.Tried clock) tasks
      ((tasks.mapM fun t => do pure (t, ← t.attempts clock s.model) : StateM σ _).run w).1 := by
  refine forall₂_mapM_run ?_ tasks w
  intro t w
  exact ⟨rfl, Task.attempted_attempts t clock s.model w⟩

theorem names_concludeAll {tasks : List Task} {made : List (Task × List Attempt)}
    (tried : List.Forall₂ (s.Tried clock) tasks made) (tree : Files.Tree) :
    (s.concludeAll tree made : List (String × Except Failure (Register α)) × _ × _).1.map Prod.fst =
      tasks.map Task.name := by
  induction tried generalizing tree with
  | nil => rfl
  | cons first _ ih =>
    obtain ⟨rfl, -⟩ := first
    exact congrArg (_ :: ·) (ih _)

/-- Tasks that are concluded one after the other are done one at a time. -/
theorem serial_of_tried (front : List Task) {tasks : List Task}
    {made : List (Task × List Attempt)} (tried : List.Forall₂ (s.Tried clock) tasks made)
    (world : World) :
    ∃ (results : List (Nat × Except Failure (Register α))) (last : World),
      Schedule.Serial (work (front ++ tasks) (s.TaskRuns clock))
        (List.range' front.length tasks.length) world results last ∧
      (results.map Prod.snd, last.tree, last.events) =
        ((s.concludeAll world.tree made).1.map Prod.snd,
          (s.concludeAll (α := α) world.tree made).2.1,
          world.events ++ (s.concludeAll (α := α) world.tree made).2.2) := by
  -- the tasks that are done move to the front, so that places stay those of the whole list
  induction tried generalizing front world with
  | nil =>
    refine ⟨[], world, .nil, ?_⟩
    rw [concludeAll, List.append_nil]
    rfl
  | @cons t e tasks made first _ ih =>
    obtain ⟨t, attempts⟩ := e
    obtain ⟨rfl, reply, answers, attempted⟩ := first
    let run : Run (Register α) := t.conclude (s.logDirectory t) attempts world.tree
    let begun : World := { world with begun := world.begun ++ [t] }
    let changed : World := ⟨begun.begun, run.tree, world.events ++ run.events⟩
    have found : (front ++ t :: tasks)[front.length]? = some t := by simp
    obtain ⟨results, last, serial, same⟩ := ih (front ++ [t]) changed
    obtain ⟨values, same⟩ := Prod.mk.inj same
    obtain ⟨left, events⟩ := Prod.mk.inj same
    rw [List.append_assoc, List.singleton_append, List.length_append, List.length_singleton]
      at serial
    refine ⟨(front.length, run.result) :: results, last, ?_, ?_⟩
    · have begins : (work (front ++ t :: tasks) (s.TaskRuns (α := α) clock)).Begins front.length
          world begun := ⟨t, found, rfl⟩
      have ran : s.TaskRuns clock t begun.tree run :=
        ⟨reply, answers, (Task.ends_iff (α := α)).mpr ⟨attempts, attempted, rfl⟩⟩
      exact .cons begins ⟨t, run, found, ran, rfl, rfl⟩ serial
    · rw [List.map_cons, values, left, events, List.append_assoc]
      rfl

/-- What `Suite.run` gives is one of the ends of a run. -/
theorem run_ends (s : Suite (StateM σ)) (clock : Clock (StateM σ)) (selection : Selection)
    (tree : Files.Tree) (w : σ) :
    s.Ends selection (s.TaskRuns clock) tree
      ((s.run clock selection tree : StateM σ (Run (Register (Register α)))).run w).1 := by
  unfold run
  cases ready : s.prepare selection tree with
  | mk fault prepared =>
    cases fault with
    | some f => exact .unprepared ready
    | none =>
      dsimp only
      rw [StateT.run_bind]
      have tried := tried_mapM s clock (s.selected selection) w
      generalize ((s.selected selection).mapM fun t => do
        pure (t, ← t.attempts clock s.model) : StateM σ _).run w = made at tried ⊢
      obtain ⟨results, last, serial, same⟩ :=
        serial_of_tried (α := α) [] tried ⟨[], prepared, []⟩
      obtain ⟨values, same⟩ := Prod.mk.inj same
      obtain ⟨left, events⟩ := Prod.mk.inj same
      simp only [List.nil_append, List.length_nil, ← List.range_eq_range'] at serial
      have room : List.range (s.selected selection).length ≠ [] →
          0 < (s.selected selection).length := by
        intro some
        exact Nat.pos_of_ne_zero fun zero => some (by rw [zero, List.range_zero])
      have ends := Ends.finished ready (serial.reaches room []) ⟨rfl, rfl⟩
      have outcomes := List.zip_of_prod (names_concludeAll (α := α) tried prepared) values.symm
      have inOrder : sorted Schedule.earlier results = results := serial.sorted_made
      rw [close, Schedule.results] at ends
      dsimp only at ends
      rw [List.nil_append, inOrder, ← outcomes, left, events] at ends
      exact ends

end Suite

end Assay
