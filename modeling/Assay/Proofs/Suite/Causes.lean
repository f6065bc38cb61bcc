import Assay.Model.Choice
import Assay.Proofs.Suite.Policy
import Assay.Proofs.Task.FirstCompletion

/-!
# The causes of late failures

Once the directories of a run are made it fails for files, for programs that cannot be asked about
or for the model: a model behind an endpoint fails for its request, the network or the response. So
no configuration error is among the causes of such a failure, whatever the order of the tasks. The
network is not known here; its failures are assumed to be failures of the network.
-/

namespace Assay

/-! ## Configuration errors -/

/-- A configuration error is among the causes of a failure. -/
def Failure.HasConfigError (f : Failure) : Prop :=
  ∃ e, Cause.config e ∈ f.causes

/-- An outcome that is no failure of configuration. -/
def NoConfigError (outcome : Except Failure β) : Prop :=
  ∀ f, outcome = .error f → ¬ f.HasConfigError

namespace Failure

@[simp] theorem hasConfigError_within (context : String) (f : Failure) :
    (f.within context).HasConfigError ↔ f.HasConfigError := by
  simp [HasConfigError, within, causes]

@[simp] theorem not_hasConfigError_note (text : String) : ¬ (note text).HasConfigError := by
  simp [HasConfigError, note, of, causes]

@[simp] theorem not_hasConfigError_file (e : Files.FileError) :
    ¬ (of (.file e)).HasConfigError := by
  simp [HasConfigError, of, causes]

end Failure

@[simp] theorem noConfigError_ok (value : β) : NoConfigError (.ok value) :=
  fun _ same => nomatch same

@[simp] theorem noConfigError_error (f : Failure) :
    NoConfigError (.error f : Except Failure β) ↔ ¬ f.HasConfigError := by
  constructor
  · intro clean
    exact clean f rfl
  · rintro clean _ ⟨⟩
    exact clean

/-- Going through a list fails for configuration only if an element does. -/
theorem noConfigError_mapM {f : γ → Except Failure β} {l : List γ}
    (each : ∀ a ∈ l, NoConfigError (f a)) : NoConfigError (l.mapM f) := by
  intro failure failed
  obtain ⟨front, a, back, rfl, -, cause⟩ := mapM_eq_error_iff.mp failed
  exact each a (by simp) failure cause

/-! ## Models -/

namespace Http

theorem noConfigError_replyOf (e : Endpoint) (response : Response) :
    NoConfigError (replyOf e response) := by
  unfold replyOf
  split
  · split
    · unfold completionsOf
      split <;> simp
    · -- the cause of a body that is no document is a note or a fault of JSON
      simp [Failure.HasConfigError, Failure.causes]
  · simp

variable {σ : Type} {transport : Transport (StateM σ)}

theorem noConfigError_asModel (e : Endpoint)
    (network : ∀ request w, NoConfigError ((transport request).run w).1) (call : Call) (w : σ) :
    NoConfigError ((e.asModel transport call).run w).1 := by
  unfold Endpoint.asModel
  dsimp only
  cases requestOf e call with
  | error causes =>
    show NoConfigError (.error _)
    simp [Failure.HasConfigError, Failure.causes]
  | ok request =>
    rw [StateT.run_bind]
    have sent := network request w
    cases outcome : (transport request).run w with
    | mk reply after =>
      rw [outcome] at sent
      cases reply with
      | error f =>
        show NoConfigError (.error (f.within _))
        have clean := sent f rfl
        exact (noConfigError_error _).mpr (by simpa using clean)
      | ok response => exact noConfigError_replyOf e response

end Http

/-- No reply of a model that a configuration may ask for fails for configuration. -/
theorem ModelChoice.noConfigError_build {σ : Type} {choice : ModelChoice}
    {environment : String → Option String} {transport : Http.Transport (StateM σ)}
    {model : Model (StateM σ)} (built : choice.build environment transport = .ok model)
    (network : ∀ request w, NoConfigError ((transport request).run w).1) (call : Call) (w : σ) :
    NoConfigError ((model call).run w).1 := by
  unfold build at built
  split at built
  · obtain rfl := Except.ok.inj built
    exact noConfigError_ok [""]
  · obtain rfl := Except.ok.inj built
    exact Http.noConfigError_asModel _ network call w
  · split at built
    · obtain rfl := Except.ok.inj built
      exact Http.noConfigError_asModel _ network call w
    · cases built

/-! ## Tasks -/

theorem Program.noConfigError_outcomeOf (p : Program) {completion : Call → Except Failure String}
    (replies : ∀ call, NoConfigError (completion call)) :
    NoConfigError (p.outcomeOf completion) := by
  unfold outcomeOf
  split
  · exact (noConfigError_error _).mpr (Failure.not_hasConfigError_note _)
  · next call _ =>
    split
    · next f failed =>
      have clean := replies call f failed
      exact (noConfigError_error _).mpr (by simpa using clean)
    · exact noConfigError_ok _

theorem noConfigError_firstCompletion {reply : Reply} (clean : NoConfigError reply) :
    NoConfigError (firstCompletion reply) := by
  cases reply with
  | error f => exact (noConfigError_error f).mpr (clean f rfl)
  | ok samples => exact noConfigError_ok _

namespace Task

variable [Arithmetic α] {t : Task} {reply : Nat → Call → Reply} {Tells : Nat → Prop}
  {directory : String} {tree : Files.Tree}

theorem Attempted.noConfigError_scores {attempts : List Attempt}
    (h : t.Attempted reply Tells attempts)
    (replies : ∀ place call, NoConfigError (reply place call)) :
    NoConfigError (t.scores attempts : Except Failure (List (Register α))) := by
  rw [scores_eq]
  apply noConfigError_mapM
  rintro ⟨p, outcome⟩ mem
  obtain ⟨attempt, made, rfl⟩ := List.mem_map.mp (List.of_mem_zip mem).2
  obtain ⟨place, found⟩ := List.mem_iff_getElem?.mp made
  obtain ⟨p', start, finish, -, -, -, rfl⟩ := h.yields found
  have clean : NoConfigError (p'.answered t.config start finish (reply place)).outcome :=
    p'.answered_outcome _ _ _ _ ▸ p'.noConfigError_outcomeOf fun call =>
      noConfigError_firstCompletion (replies place call)
  dsimp only
  generalize (p'.answered t.config start finish (reply place)).outcome = outcome at clean
  cases outcome with
  | ok prediction => exact noConfigError_ok _
  | error f => exact (noConfigError_error _).mpr (by simpa using clean f rfl)

/-- A task fails for its log or an attempt, and so not for configuration. -/
theorem Ends.noConfigError {run : Run (Register α)}
    (ended : t.Ends reply Tells directory tree run)
    (replies : ∀ place call, NoConfigError (reply place call)) : NoConfigError run.result := by
  obtain ⟨attempts, attempted, rfl⟩ := ends_iff.mp ended
  cases slot : tree.slot (Log.path directory) with
  | error e =>
    rw [conclude_result_of_slot_error slot]
    simp
  | ok place =>
    rw [conclude_result_of_slot slot, verdict]
    have clean := attempted.noConfigError_scores (α := α) replies
    generalize (t.scores attempts : Except Failure (List (Register α))) = scores at clean
    cases scores with
    | ok registers => exact noConfigError_ok _
    | error f => exact (noConfigError_error f).mpr (clean f rfl)

end Task

/-! ## Suites -/

namespace Suite

/-- A run that is summed up fails for one of its outcomes. -/
theorem noConfigError_collect {policy : FailurePolicy}
    {outcomes : List (String × Except Failure β)}
    (each : ∀ e ∈ outcomes, NoConfigError e.2) : NoConfigError (collect policy outcomes).1 := by
  cases policy with
  | isolate => exact noConfigError_ok _
  | abort =>
    unfold collect
    dsimp only
    split
    · exact noConfigError_ok _
    · next name f others first =>
      have mem : (name, f) ∈ failures outcomes := by
        rw [first]
        exact List.mem_cons_self
      obtain ⟨⟨name', outcome⟩, outcome_mem, same⟩ := List.mem_filterMap.mp mem
      have clean := each _ outcome_mem
      cases outcome with
      | ok value => cases same
      | error f' =>
        obtain ⟨rfl, rfl⟩ := Prod.mk.inj (Option.some.inj same)
        exact (noConfigError_error f').mpr (clean f' rfl)

variable {σ : Type} {s : Suite (StateM σ)} {clock : Clock (StateM σ)} {selection : Selection}
  {tree prepared : Files.Tree}

/-- Once the directories are made a run does not fail for configuration, if the model does not. -/
theorem Ends.noConfigError [Arithmetic α] {run : Run (Register (Register α))}
    (ready : s.prepare selection tree = (none, prepared))
    (ended : s.Ends selection (s.TaskRuns clock) tree run)
    (replies : ∀ call w, NoConfigError ((s.model call).run w).1) : NoConfigError run.result := by
  cases ended with
  | unprepared failed =>
    rw [ready] at failed
    cases failed
  | @finished _ state ready reached complete =>
    -- what holds of each finished task holds of all results in the end
    have done := done_of (P := fun _ result => NoConfigError result) (by
      rintro t tree run ⟨reply, answers, ended⟩
      refine ended.noConfigError fun place call => ?_
      obtain ⟨w, told⟩ := answers place call
      exact told ▸ replies call w) reached
    refine noConfigError_collect ?_
    rintro ⟨name, result⟩ mem
    obtain ⟨place, found⟩ := List.mem_iff_getElem?.mp (List.of_mem_zip mem).2
    obtain ⟨t, -, clean⟩ := reached.results_at
      (P := fun place result => ∃ t, (s.selected selection)[place]? = some t ∧
        NoConfigError result) complete done found
    exact clean

theorem noConfigError_writeInto (directory name text : String) (tree : Files.Tree) :
    NoConfigError (writeInto directory name text tree) := by
  unfold writeInto fileContext
  dsimp only
  cases tree.writeText (Files.Path.join directory name) text with
  | ok written => exact noConfigError_ok _
  | error e => exact (noConfigError_error _).mpr (by simp)

/-- Publishing fails for files only. -/
theorem noConfigError_publish {output : String} {run : Run Summary}
    (clean : NoConfigError run.result) : NoConfigError (publish output run).result := by
  unfold publish
  split
  · exact clean
  · next summary _ =>
    have markdown := noConfigError_writeInto output markdownFile summary.markdown run.tree
    split
    · next f failed => exact (noConfigError_error f).mpr (markdown f failed)
    · next tree _ =>
      have json := noConfigError_writeInto output jsonFile summary.toJson.pretty tree
      split
      · next f failed => exact (noConfigError_error f).mpr (json f failed)
      · exact noConfigError_ok _

end Suite

end Assay
