import Assay.Sorted

/-!
# Jobs under a limit

Jobs are begun in their order, at most a fixed number of them are open at a time, and an open job
may be done at any moment. They share a world, which a job may change when it is begun and when it
is done. A schedule tells which jobs wait, which are open, what came of those that are done, and
what the world is like; `Step` is one event and `Reaches` any number of them. Jobs are known by
their places in the list, so the results can be put back into its order. Main statements: no more
jobs are open than the limit allows, no job is lost or done twice, a schedule that is not complete
can go on, and a complete one has one result for each job, in the order of the jobs.
-/

namespace Assay

/-- What the jobs of a list do to the world that they share. -/
structure Jobs (ω β : Type) where
  /-- Which changes of the world begin a job. -/
  Begins : Nat → ω → ω → Prop
  /-- With which results, and which changes of the world, a job that is open may be done. -/
  Finishes : Nat → ω → β → ω → Prop

/-- How far a list of jobs has come. -/
structure Schedule (ω β : Type) where
  /-- The jobs that are not begun yet. -/
  waiting : List Nat
  /-- The jobs that are begun and not done. -/
  opened : List Nat
  /-- The jobs that are done, with their results, in the order in which they were done. -/
  done : List (Nat × β)
  /-- What the jobs share. -/
  world : ω

namespace Schedule

/-- The schedule of `count` jobs before the first one is begun. -/
def start (count : Nat) (world : ω) : Schedule ω β := ⟨List.range count, [], [], world⟩

/-- Every job of a schedule, in whatever state it is. -/
def jobs (s : Schedule ω β) : List Nat :=
  s.waiting ++ s.opened ++ s.done.map Prod.fst

/-- Whether all jobs are done. -/
def Complete (s : Schedule ω β) : Prop :=
  s.waiting = [] ∧ s.opened = []

/-- The order of results by their jobs. -/
def earlier (a b : Nat × β) : Bool :=
  decide (a.1 < b.1)

/-- The results in the order of the jobs. -/
def results (s : Schedule ω β) : List β :=
  (sorted earlier s.done).map Prod.snd

/-! ## Steps -/

/-- One event of a schedule. -/
inductive Step (limit : Nat) (work : Jobs ω β) : Schedule ω β → Schedule ω β → Prop
  /-- The next job is begun, if fewer jobs than the limit are open. -/
  | begin {job waiting opened done world changed} (room : opened.length < limit)
      (begins : work.Begins job world changed) :
      Step limit work ⟨job :: waiting, opened, done, world⟩
        ⟨waiting, opened ++ [job], done, changed⟩
  /-- One of the open jobs is done. -/
  | finish {job waiting before after done result world changed}
      (finishes : work.Finishes job world result changed) :
      Step limit work ⟨waiting, before ++ job :: after, done, world⟩
        ⟨waiting, before ++ after, done ++ [(job, result)], changed⟩

/-- Any number of events, one after the other. -/
inductive Reaches (limit : Nat) (work : Jobs ω β) : Schedule ω β → Schedule ω β → Prop
  | refl {s} : Reaches limit work s s
  | tail {s t u} : Reaches limit work s t → Step limit work t u → Reaches limit work s u

variable {limit : Nat} {work : Jobs ω β} {s t u : Schedule ω β}

/-! ## Laws of every run -/

/-- What every event preserves holds at the end of a run if it holds at its beginning. -/
theorem Reaches.keeps (Inv : Schedule ω β → Prop) (h : Reaches limit work s t) (first : Inv s)
    (step : ∀ {a b}, Step limit work a b → Inv a → Inv b) : Inv t := by
  induction h with
  | refl => exact first
  | tail _ last ih => exact step last ih

theorem Reaches.trans (h : Reaches limit work s t) (next : Reaches limit work t u) :
    Reaches limit work s u := by
  induction next with
  | refl => exact h
  | tail _ last ih => exact .tail ih last

/-- An event keeps the number of open jobs within the limit. -/
theorem Step.opened_le (h : Step limit work s t) (le : s.opened.length ≤ limit) :
    t.opened.length ≤ limit := by
  cases h with
  | begin room _ => simpa using Nat.succ_le_of_lt room
  | finish _ =>
    simp only [List.length_append, List.length_cons] at le ⊢
    omega

/-- At no time are more jobs open than the limit allows. -/
theorem Reaches.opened_le (h : Reaches limit work s t) (le : s.opened.length ≤ limit) :
    t.opened.length ≤ limit :=
  h.keeps (·.opened.length ≤ limit) le Step.opened_le

/-- An event moves jobs from one state to another and keeps each of them. -/
theorem Step.jobs_perm (h : Step limit work s t) : t.jobs.Perm s.jobs := by
  cases h with
  | @begin job waiting opened done world changed _ _ =>
    simp only [jobs]
    refine List.Perm.append_right _ ?_
    rw [← List.append_assoc, List.cons_append]
    exact List.perm_append_singleton job (waiting ++ opened)
  | @finish job waiting before after done result world changed _ =>
    simp only [jobs, List.map_append, List.map_cons, List.map_nil, List.append_assoc,
      List.cons_append]
    refine List.Perm.append_left _ (List.Perm.append_left _ ?_)
    rw [← List.append_assoc]
    exact List.perm_append_singleton job (after ++ done.map Prod.fst)

/-- No job is lost and none is done twice. -/
theorem Reaches.jobs_perm (h : Reaches limit work s t) : t.jobs.Perm s.jobs :=
  h.keeps (·.jobs.Perm s.jobs) (.refl _) fun step perm => step.jobs_perm.trans perm

/-- A schedule that is not complete can go on, if every job that waits can begin and every job that
is open has some result. -/
theorem exists_step (positive : 0 < limit)
    (begins : ∀ job ∈ s.waiting, ∃ changed, work.Begins job s.world changed)
    (finishes : ∀ job ∈ s.opened, ∃ result changed, work.Finishes job s.world result changed)
    (h : ¬ s.Complete) : ∃ t, Step limit work s t := by
  obtain ⟨waiting, opened, done, world⟩ := s
  cases opened with
  | nil =>
    cases waiting with
    | nil => exact absurd ⟨rfl, rfl⟩ h
    | cons job waiting =>
      obtain ⟨changed, begun⟩ := begins job List.mem_cons_self
      exact ⟨_, .begin (by simpa using positive) begun⟩
  | cons job opened =>
    obtain ⟨result, changed, finished⟩ := finishes job List.mem_cons_self
    exact ⟨_, @Step.finish _ _ _ _ job waiting [] opened done result world changed finished⟩

/-! ## What the world records -/

/-- If beginning a job adds its entry to a record that the world keeps, and finishing a job leaves
the record alone, then the record and the entries of the waiting jobs together stay the same. -/
theorem Reaches.record_append (record : ω → List γ) (entry : Nat → List γ)
    (begins : ∀ {job world changed}, work.Begins job world changed →
      record changed = record world ++ entry job)
    (finishes : ∀ {job world result changed}, work.Finishes job world result changed →
      record changed = record world)
    (h : Reaches limit work s t) :
    record t.world ++ t.waiting.flatMap entry = record s.world ++ s.waiting.flatMap entry := by
  refine h.keeps (fun t => record t.world ++ t.waiting.flatMap entry =
    record s.world ++ s.waiting.flatMap entry) rfl ?_
  intro a b step same
  rw [← same]
  cases step with
  | begin _ begun => simp [begins begun]
  | finish finished => simp [finishes finished]

/-- Once all jobs are done the record holds the entry of each of them, in the order of the jobs. -/
theorem Reaches.record_eq (record : ω → List γ) (entry : Nat → List γ) {count : Nat} {world : ω}
    (begins : ∀ {job world changed}, work.Begins job world changed →
      record changed = record world ++ entry job)
    (finishes : ∀ {job world result changed}, work.Finishes job world result changed →
      record changed = record world)
    (h : Reaches limit work (start count world) t) (complete : t.Complete) :
    record t.world = record world ++ (List.range count).flatMap entry := by
  have same := h.record_append record entry begins finishes
  rw [complete.1] at same
  simpa [start] using same

/-! ## Results -/

/-- What is true of every result a job may have is true of the results of a run. -/
theorem Reaches.done_of {P : Nat → β → Prop}
    (finishes : ∀ {job world result changed}, work.Finishes job world result changed →
      P job result)
    (h : Reaches limit work s t) (first : ∀ e ∈ s.done, P e.1 e.2) : ∀ e ∈ t.done, P e.1 e.2 := by
  refine h.keeps (fun t => ∀ e ∈ t.done, P e.1 e.2) first ?_
  intro a b step known
  cases step with
  | begin _ _ => exact known
  | finish finished =>
    intro e mem
    rcases List.mem_append.mp mem with mem | mem
    · exact known e mem
    · rw [List.mem_singleton.mp mem]
      exact finishes finished

theorem sortable_earlier : Sortable (earlier : Nat × β → Nat × β → Bool) where
  asymm := by
    intro a b h
    simp only [earlier, decide_eq_true_eq, decide_eq_false_iff_not] at h ⊢
    omega
  trans := by
    intro a b c hab hbc
    simp only [earlier, decide_eq_false_iff_not] at hab hbc ⊢
    omega

/-- Once all jobs are done, the results by their jobs are those of the jobs in order. -/
theorem Reaches.sorted_done {count : Nat} {world : ω}
    (h : Reaches limit work (start count world) t) (complete : t.Complete) :
    (sorted earlier t.done).map Prod.fst = List.range count := by
  have perm : ((sorted earlier t.done).map Prod.fst).Perm (List.range count) := by
    have all := h.jobs_perm
    simp only [jobs, complete.1, complete.2, start, List.nil_append, List.append_nil,
      List.map_nil] at all
    exact ((sorted_perm earlier t.done).map Prod.fst).trans all
  have ordered : ((sorted earlier t.done).map Prod.fst).Pairwise (· ≤ ·) := by
    refine List.pairwise_map.mpr ((inOrder_sorted sortable_earlier t.done).imp ?_)
    intro a b notLater
    simpa [earlier] using notLater
  refine perm.eq_of_pairwise (fun a b _ _ => Nat.le_antisymm) ordered ?_
  exact List.pairwise_lt_range.imp Nat.le_of_lt

/-- Once all jobs are done there is one result for each job. -/
theorem Reaches.length_results {count : Nat} {world : ω}
    (h : Reaches limit work (start count world) t) (complete : t.Complete) :
    t.results.length = count := by
  have jobs := congrArg List.length (h.sorted_done complete)
  simpa [results] using jobs

/-- The results stand in the order of the jobs: what is true of every job that is done and of its
result is true of every place and of the result at it. -/
theorem Reaches.results_at {P : Nat → β → Prop} {count : Nat} {world : ω}
    (h : Reaches limit work (start count world) t) (complete : t.Complete)
    (known : ∀ e ∈ t.done, P e.1 e.2) {place : Nat} {result : β}
    (found : t.results[place]? = some result) : P place result := by
  rw [results, List.getElem?_map, Option.map_eq_some_iff] at found
  obtain ⟨⟨job, _⟩, found, rfl⟩ := found
  have same : (List.range count)[place]? = some job := by
    rw [← h.sorted_done complete, List.getElem?_map, found]
    rfl
  obtain ⟨_, same⟩ := List.getElem?_eq_some_iff.mp same
  rw [List.getElem_range] at same
  subst same
  exact known _ (mem_sorted.mp (List.mem_of_getElem? found))

/-! ## One job at a time -/

/-- Jobs that are begun and done one after the other. -/
inductive Serial (work : Jobs ω β) : List Nat → ω → List (Nat × β) → ω → Prop
  | nil {world} : Serial work [] world [] world
  | cons {job jobs world begun result changed done last} (begins : work.Begins job world begun)
      (finishes : work.Finishes job begun result changed)
      (rest : Serial work jobs changed done last) :
      Serial work (job :: jobs) world ((job, result) :: done) last

/-- A list of jobs can be gone through one job at a time, whatever the limit, unless that is
zero. -/
theorem Serial.reaches {waiting : List Nat} {world last : ω} {made : List (Nat × β)}
    (h : Serial work waiting world made last) (room : waiting ≠ [] → 0 < limit)
    (done : List (Nat × β)) :
    Reaches limit work ⟨waiting, [], done, world⟩ ⟨[], [], done ++ made, last⟩ := by
  induction h generalizing done with
  | nil => simpa using Reaches.refl
  | @cons job jobs world begun result changed made last begins finishes _ ih =>
    have positive : 0 < limit := room (List.cons_ne_nil job jobs)
    have first : Step limit work ⟨job :: jobs, [], done, world⟩ ⟨jobs, [job], done, begun⟩ :=
      .begin (by simpa using positive) begins
    have second : Step limit work ⟨jobs, [job], done, begun⟩
        ⟨jobs, [], done ++ [(job, result)], changed⟩ :=
      @Step.finish _ _ _ _ job jobs [] [] done result begun changed finishes
    have others := ih (fun _ => positive) (done ++ [(job, result)])
    rw [List.append_assoc] at others
    exact (Reaches.refl.tail first |>.tail second).trans others

/-- Results that were made in the order of the jobs are in that order already. -/
theorem Serial.sorted_made {count : Nat} {world last : ω} {made : List (Nat × β)}
    (h : Serial work (List.range count) world made last) : sorted earlier made = made := by
  have jobs : made.map Prod.fst = List.range count := by
    generalize List.range count = waiting at h
    induction h with
    | nil => rfl
    | cons _ _ _ ih => simp [ih]
  apply sorted_eq_self
  have ascending : (made.map Prod.fst).Pairwise (· < ·) := jobs ▸ List.pairwise_lt_range
  refine (List.pairwise_map.mp ascending).imp ?_
  intro a b lt
  simp only [earlier, decide_eq_false_iff_not]
  omega

end Schedule

end Assay
