import Assay.Proofs.Task.Recording

/-!
# What a run of a task concludes from

A run may end in the conclusion from any attempts that the programs yield, and in nothing else. What
`Task.run` gives with a clock and a model whose answers depend on some state is one of these ends,
with the replies that the model gives in it.
-/

namespace Assay

namespace Task

variable {t : Task} {reply : Nat → Call → Reply} {Tells : Nat → Prop}

/-! ## Ends and attempts -/

/-- Attempts that the programs yield can be made one at a time. -/
theorem serial_of_yields (t : Task) (reply : Nat → Call → Reply) (Tells : Nat → Prop)
    (made : List (Nat × Attempt)) (calls : List (Nat × Call))
    (yields : ∀ e ∈ made, t.Yields reply Tells e.1 e.2) :
    ∃ last, Schedule.Serial (t.work reply Tells) (made.map Prod.fst) calls made last := by
  induction made generalizing calls with
  | nil => exact ⟨calls, .nil⟩
  | cons first rest ih =>
    obtain ⟨place, attempt⟩ := first
    obtain ⟨last, serial⟩ := ih (calls ++ t.callsAt place) fun e mem =>
      yields e (List.mem_cons_of_mem _ mem)
    have yielded : t.Yields reply Tells place attempt := yields _ List.mem_cons_self
    exact ⟨last, .cons rfl ⟨yielded, rfl⟩ serial⟩

theorem Attempted.of_reaches {s : Schedule (List (Nat × Call)) Attempt}
    (reached : Schedule.Reaches t.callLimit (t.work reply Tells) t.schedule s)
    (complete : s.Complete) : t.Attempted reply Tells s.results where
  length := reached.length_results complete
  yields := by
    intro place attempt found
    have made := reached.done_of (P := t.Yields reply Tells) (fun finishes => And.left finishes)
      (List.forall_mem_nil _)
    exact reached.results_at complete made found

/-- A run ends exactly in a conclusion from one attempt for each program. -/
theorem ends_iff [Arithmetic α] {directory : String} {tree : Files.Tree}
    {run : Run (Register α)} :
    t.Ends reply Tells directory tree run ↔
      ∃ attempts, t.Attempted reply Tells attempts ∧ run = t.conclude directory attempts tree := by
  constructor
  · rintro ⟨s, reached, complete, rfl⟩
    exact ⟨s.results, .of_reaches reached complete, rfl⟩
  · rintro ⟨attempts, attempted, rfl⟩
    have places : ((List.range t.programs.length).zip attempts).map Prod.fst =
        List.range t.programs.length := by
      rw [List.map_fst_zip]
      simp [attempted.length]
    have made : ((List.range t.programs.length).zip attempts).map Prod.snd = attempts := by
      rw [List.map_snd_zip]
      simp [attempted.length]
    obtain ⟨last, serial⟩ := serial_of_yields t reply Tells
      ((List.range t.programs.length).zip attempts) [] (by
        rintro ⟨place, attempt⟩ mem
        obtain ⟨i, found⟩ := List.mem_iff_getElem?.mp mem
        obtain ⟨same, attempt_eq⟩ := List.getElem?_zip_eq_some.mp found
        obtain ⟨_, rfl⟩ := List.getElem?_eq_some_iff.mp same
        simpa using attempted.yields attempt_eq)
    rw [places] at serial
    have room : 0 < t.callLimit := Nat.lt_of_lt_of_le Nat.one_pos (Nat.le_max_right _ _)
    refine ⟨_, serial.reaches (fun _ => room) [], ⟨rfl, rfl⟩, ?_⟩
    simp [Schedule.results, serial.sorted_made, made]

/-! ## The run that makes one call at a time -/

/-- The attempts that are made one at a time are attempts at the programs, for some replies that
the model may give. -/
theorem attempted_attempts {σ : Type} (t : Task) (clock : Clock (StateM σ))
    (model : Model (StateM σ)) (w : σ) :
    ∃ reply, (∀ place call, Answers model call (reply place call)) ∧
      t.Attempted reply (Told clock) ((t.attempts clock model).run w).1 := by
  obtain ⟨record, reply, transcript, attempted, -⟩ := t.attempts_recording clock model w
  exact ⟨reply, transcript.possible, attempted⟩

/-- What `Task.run` gives is one of the ends of a run, with the replies that are recorded when the
model keeps a record, which changes nothing else. -/
theorem run_recording [Arithmetic α] {σ : Type} (t : Task) (clock : Clock (StateM σ))
    (model : Model (StateM σ)) (directory : String) (tree : Files.Tree) (w : σ) :
    ∃ record reply, t.Transcript model record reply ∧
      t.Ends reply (Told clock) directory tree
        ((t.run clock model directory tree : StateM σ (Run (Register α))).run w).1 ∧
      (((t.run (StateT.lift clock) model.recording directory tree :
          StateT _ (StateM σ) (Run (Register α))).run []).run w).1 =
        (((t.run clock model directory tree).run w).1, record) := by
  obtain ⟨record, reply, transcript, attempted, recorded⟩ := t.attempts_recording clock model w
  refine ⟨record, reply, transcript, ends_iff.mpr ⟨_, attempted, rfl⟩, ?_⟩
  simp only [run, StateT.run_bind, recorded]
  rfl

/-- What `Task.run` gives is one of the ends of a run. -/
theorem run_ends [Arithmetic α] {σ : Type} (t : Task) (clock : Clock (StateM σ))
    (model : Model (StateM σ)) (directory : String) (tree : Files.Tree) (w : σ) :
    ∃ reply, (∀ place call, Answers model call (reply place call)) ∧
      t.Ends reply (Told clock) directory tree
        ((t.run clock model directory tree : StateM σ (Run (Register α))).run w).1 := by
  obtain ⟨record, reply, transcript, ended, -⟩ :=
    t.run_recording (α := α) clock model directory tree w
  exact ⟨reply, transcript.possible, ended⟩

end Task

end Assay
