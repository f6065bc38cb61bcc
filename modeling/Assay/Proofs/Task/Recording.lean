import Assay.Proofs.FirstFailure
import Assay.Proofs.Task.Conclusion
import Assay.Task.Schedule
import Mathlib.Tactic.Choose

/-!
# What a model is asked

A model may keep a record of the calls it gets, each with the reply to it. Keeping a record changes
nothing else in a run, and what is recorded of a run of a task is one call for each program that can
be asked about, in the order of the programs. So the replies that were given are known by the places
of the programs, and the attempts of the run are those which these replies make.
-/

namespace Assay

/-- The model that keeps a record of its calls and of the replies to them. -/
def Model.recording [Monad m] (model : Model m) : Model (StateT (List (Call × Reply)) m) :=
  fun call record => do
    let reply ← model call
    pure (reply, record ++ [(call, reply)])

/-! ## Records -/

/-- Going through a list while a record is kept, if each element does the same with a record as it
does without one but for adding to it: so does the list, and what it adds are the parts that its
elements add. -/
theorem mapM_recording {σ : Type} {f : γ → StateT (List δ) (StateM σ) β} {g : γ → StateM σ β}
    {P : γ → β × List δ → Prop}
    (each : ∀ a record w, ∃ added,
      ((f a).run record).run w = ((((g a).run w).1, record ++ added), ((g a).run w).2) ∧
        P a (((g a).run w).1, added))
    (l : List γ) (record : List δ) (w : σ) :
    ∃ parts, List.Forall₂ P l parts ∧ ((l.mapM g).run w).1 = parts.map Prod.fst ∧
      ((l.mapM f).run record).run w =
        ((((l.mapM g).run w).1, record ++ parts.flatMap Prod.snd), ((l.mapM g).run w).2) := by
  induction l generalizing record w with
  | nil =>
    refine ⟨[], .nil, rfl, ?_⟩
    rw [List.flatMap_nil, List.append_nil]
    rfl
  | cons a rest ih =>
    obtain ⟨added, first, holds⟩ := each a record w
    obtain ⟨parts, all, results, later⟩ := ih (record ++ added) ((g a).run w).2
    refine ⟨(((g a).run w).1, added) :: parts, .cons holds all, ?_, ?_⟩
    · rw [List.mapM_cons, List.map_cons, ← results]
      rfl
    · rw [List.mapM_cons, List.mapM_cons, List.flatMap_cons, ← List.append_assoc]
      simp only [StateT.run_bind, first]
      exact congrArg (fun r => ((((g a).run w).1 :: r.1.1, r.1.2), r.2)) later

/-- What can be chosen for each element of a list, given its result, can be chosen by places. -/
theorem exists_by_place {R : γ → β → φ → Prop} (other : φ) {l : List γ} {results : List β}
    (all : List.Forall₂ (fun a b => ∃ c, R a b c) l results) :
    ∃ choice : Nat → φ, List.Forall₂ (fun e b => R e.1 b (choice e.2)) l.zipIdx results := by
  have each : ∀ place : Nat, ∃ c, ∀ (a : γ) (b : β), l[place]? = some a →
      results[place]? = some b → R a b c := by
    intro place
    cases found : l[place]? with
    | none => exact ⟨other, fun a b h => nomatch h⟩
    | some a =>
      obtain ⟨b, found', c, holds⟩ := exists_getElem?_of_forall₂ all found
      refine ⟨c, ?_⟩
      rintro _ b' ⟨⟩ same
      obtain rfl := Option.some.inj (found'.symm.trans same)
      exact holds
  choose choice chosen using each
  refine ⟨choice, List.forall₂_iff_get.mpr ⟨?_, ?_⟩⟩
  · rw [List.length_zipIdx, all.length_eq]
  · intro place inside inside'
    have inside'' : place < l.length := all.length_eq ▸ inside'
    simp only [List.get_eq_getElem, List.getElem_zipIdx, Nat.zero_add]
    exact chosen place _ _ (List.getElem?_eq_getElem inside'') (List.getElem?_eq_getElem inside')

/-! ## Programs -/

variable {σ : Type}

/-- Replies to calls that a model may give. -/
def Replies (model : Model (StateM σ)) : Type :=
  { f : Call → Reply // ∀ call, Answers model call (f call) }

/-- An attempt at a program with what is recorded of it: its call, if it has one, with the reply of
which the attempt is made. -/
structure Program.Records (p : Program) (config : TaskConfig) (Tells : Nat → Prop)
    (part : Attempt × List (Call × Reply)) (f : Call → Reply) : Prop where
  made : ∃ start finish, Tells start ∧ Tells finish ∧ part.1 = p.answered config start finish f
  kept : part.2 = (p.call?.map fun call => (call, f call)).toList

/-- A program is put to a model in the same way when a record is kept. -/
theorem Program.attempt_recording (p : Program) (config : TaskConfig) (clock : Clock (StateM σ))
    (model : Model (StateM σ)) (record : List (Call × Reply)) (w : σ) :
    ∃ added,
      ((p.attempt config (StateT.lift clock) model.recording).run record).run w =
        ((((p.attempt config clock model).run w).1, record ++ added),
          ((p.attempt config clock model).run w).2) ∧
      ∃ f : Replies model,
        p.Records config (Told clock) (((p.attempt config clock model).run w).1, added) f.1 := by
  cases called : p.call? with
  | none =>
    refine ⟨[], ?_, ⟨fun call => ((model call).run w).1, fun _ => ⟨_, rfl⟩⟩,
      ⟨(clock.run w).1, (clock.run (clock.run w).2).1, ⟨_, rfl⟩, ⟨_, rfl⟩, ?_⟩, ?_⟩
    · rw [List.append_nil]
      simp only [attempt, called, StateT.run_bind, StateT.run_pure]
      rfl
    · simp only [attempt, answered_eq, called, StateT.run_bind, StateT.run_pure]
      rfl
    · rw [called]
      rfl
  | some call =>
    let asked := (model call).run (clock.run w).2
    refine ⟨[(call, asked.1)], ?_, ⟨fun call => ((model call).run (clock.run w).2).1,
      fun _ => ⟨_, rfl⟩⟩, ⟨(clock.run w).1, (clock.run asked.2).1, ⟨_, rfl⟩, ⟨_, rfl⟩, ?_⟩, ?_⟩
    · simp only [attempt, called, StateT.run_bind, StateT.run_pure]
      rfl
    · simp only [attempt, answered_eq, called, StateT.run_bind, StateT.run_pure]
      rfl
    · rw [called]
      rfl

namespace Task

variable {t : Task} {reply : Nat → Call → Reply} {Tells : Nat → Prop} {attempts : List Attempt}

/-! ## Tasks -/

/-- There is one attempt for each program just when the attempts are those of the programs, each with
the replies of its place. -/
theorem attempted_iff_forall₂ :
    t.Attempted reply Tells attempts ↔
      List.Forall₂ (fun (e : Program × Nat) attempt => ∃ start finish, Tells start ∧ Tells finish ∧
        attempt = e.1.answered t.config start finish (reply e.2)) t.programs.zipIdx attempts := by
  rw [List.forall₂_iff_get]
  constructor
  · intro attempted
    refine ⟨by rw [List.length_zipIdx, attempted.length], ?_⟩
    intro place inside inside'
    obtain ⟨p, start, finish, found, told, told', made⟩ :=
      attempted.yields (List.getElem?_eq_getElem inside')
    obtain ⟨_, rfl⟩ := List.getElem?_eq_some_iff.mp found
    simp only [List.get_eq_getElem, List.getElem_zipIdx, Nat.zero_add]
    exact ⟨start, finish, told, told', made⟩
  · rintro ⟨length, each⟩
    rw [List.length_zipIdx] at length
    refine ⟨length.symm, ?_⟩
    intro place attempt found
    obtain ⟨inside, rfl⟩ := List.getElem?_eq_some_iff.mp found
    have inside' : place < t.programs.length := length ▸ inside
    obtain ⟨start, finish, told, told', made⟩ := each place (by simpa using inside') inside
    simp only [List.get_eq_getElem, List.getElem_zipIdx, Nat.zero_add] at made
    exact ⟨t.programs[place], start, finish, List.getElem?_eq_getElem inside', told, told', made⟩

/-- The calls of a task with replies to them are those of its programs, one after the other. -/
theorem map_calls (t : Task) (reply : Nat → Call → Reply) :
    t.calls.map (fun e => (e.2, reply e.1 e.2)) =
      (t.programs.zipIdx.map fun e =>
        (e.1.call?.map fun call => (call, reply e.2 call)).toList).flatten := by
  rw [calls, List.map_filterMap, List.filterMap_eq_flatMap_toList, List.flatMap_def]
  simp only [Option.map_map]
  rfl

/-- A record of the calls of a task: each of them once, in the order of the programs, with a reply
that the model may give. -/
structure Transcript (t : Task) (model : Model (StateM σ)) (record : List (Call × Reply))
    (reply : Nat → Call → Reply) : Prop where
  possible : ∀ place call, Answers model call (reply place call)
  calls : record = t.calls.map fun e => (e.2, reply e.1 e.2)

/-- A model without state gives one reply to a call, whatever the place. -/
theorem Transcript.reply_eq {model : Call → Reply} {record : List (Call × Reply)}
    (h : t.Transcript (fun call => (pure (model call) : StateM σ Reply)) record reply) :
    reply = fun _ => model := by
  funext place call
  obtain ⟨_, same⟩ := h.possible place call
  exact same.symm

/-- What is recorded of the attempts that are made one at a time are the calls of the task, and the
attempts are those that the replies make. -/
theorem attempts_recording (t : Task) (clock : Clock (StateM σ)) (model : Model (StateM σ))
    (w : σ) :
    ∃ record reply, t.Transcript model record reply ∧
      t.Attempted reply (Told clock) ((t.attempts clock model).run w).1 ∧
      ((t.attempts (StateT.lift clock) model.recording).run []).run w =
        ((((t.attempts clock model).run w).1, record), ((t.attempts clock model).run w).2) := by
  obtain ⟨parts, made, results, recorded⟩ :=
    mapM_recording (P := fun p part => ∃ f : Replies model, p.Records t.config (Told clock) part f.1)
      (fun p => p.attempt_recording t.config clock model) t.programs [] w
  -- where no program is asked about any reply will do
  obtain ⟨reply, all⟩ := exists_by_place
    (⟨fun call => ((model call).run w).1, fun _ => ⟨_, rfl⟩⟩ : Replies model) made
  have kept := map_eq_of_forall₂ (R := fun (e : Program × Nat) part =>
    e.1.Records t.config (Told clock) part (reply e.2).1) (fun _ _ h => h.kept.symm) all
  have calls := t.map_calls fun place => (reply place).1
  refine ⟨parts.flatMap Prod.snd, fun place => (reply place).1,
    ⟨fun place => (reply place).2, ?_⟩, ?_, recorded⟩
  · rw [calls, List.flatMap_def, ← kept]
  · rw [attempted_iff_forall₂, attempts, results, List.forall₂_map_right_iff]
    exact all.imp fun _ _ h => h.made

end Task

end Assay
