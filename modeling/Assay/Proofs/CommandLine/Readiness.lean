import Assay.CommandLine.Execution
import Assay.Proofs.Suite.Causes
import Assay.Proofs.Suite.Footprint
import Assay.Proofs.Task.Loading

/-!
# Runs that fail before their first call

A run of the command line resolves its settings, and makes its suite of an output directory, tasks
and a model. What can go wrong up to then is told by `Unready`: nothing was done yet, neither to the
files nor to anything around the command. Then the directories are made, all of them before the
first call, so a directory that cannot be made ends a run that wrote no file. All configuration
errors are found before that.
-/

namespace Assay.CommandLine

variable {m : Type → Type} [Monad m]

/-! ## Stages -/

/-- The tasks of a run: those that were loaded, with the limit of its settings. -/
def limited (config : RunConfig) (tasks : List Task) : List Task :=
  tasks.map fun t => { t with maxConcurrency := config.maxConcurrency }

/-- Why a run cannot begin: its settings cannot be resolved, it has no output directory, its tasks
cannot be loaded, or its model or its suite cannot be made, whichever is found first. -/
inductive Unready (around : Surroundings m) (options : RunOptions) (tree : Files.Tree) :
    Failure → Prop
  | settings {f} (resolved : options.resolve tree = .error f) : Unready around options tree f
  | output {config} (resolved : options.resolve tree = .ok config)
      (directory : config.outputDirectory = none) :
      Unready around options tree
        (.note "--output-directory must be set (or `output_directory` in --config)")
  | tasks {config output f} (resolved : options.resolve tree = .ok config)
      (directory : config.outputDirectory = some output)
      (loaded : Task.loadAll tree config.tasksDirectory = .error f) : Unready around options tree f
  | model {config output tasks f} (resolved : options.resolve tree = .ok config)
      (directory : config.outputDirectory = some output)
      (loaded : Task.loadAll tree config.tasksDirectory = .ok tasks)
      (made : config.model.build around.environment around.transport = .error f) :
      Unready around options tree f
  | suite {config output tasks model e} (resolved : options.resolve tree = .ok config)
      (directory : config.outputDirectory = some output)
      (loaded : Task.loadAll tree config.tasksDirectory = .ok tasks)
      (made : config.model.build around.environment around.transport = .ok model)
      (built : Suite.build ⟨some model, limited config tasks, some output, config.policy⟩ =
        .error e) :
      Unready around options tree (.of (.config e))

/-- The settings and the suite of a run that can begin. -/
structure Ready (around : Surroundings m) (options : RunOptions) (tree : Files.Tree)
    (config : RunConfig) (suite : Suite m) : Prop where
  resolved : options.resolve tree = .ok config
  output : config.outputDirectory = some suite.output
  loaded : ∃ tasks, Task.loadAll tree config.tasksDirectory = .ok tasks ∧
    suite.tasks = limited config tasks
  made : config.model.build around.environment around.transport = .ok suite.model
  policy : suite.policy = config.policy

variable {around : Surroundings m} {options : RunOptions} {tree : Files.Tree} {config : RunConfig}

omit [Monad m] in
/-- A suite that was built has the parts that it was built of. -/
theorem parts_of_build {model : Model m} {tasks : List Task} {output : String}
    {policy : FailurePolicy} {suite : Suite m}
    (built : Suite.build ⟨some model, tasks, some output, policy⟩ = .ok suite) :
    suite.model = model ∧ suite.tasks = tasks ∧ suite.output = output ∧ suite.policy = policy := by
  unfold Suite.build at built
  dsimp only at built
  split at built
  · cases built
  · obtain rfl := Except.ok.inj built
    exact ⟨rfl, rfl, rfl, rfl⟩

/-- The settings of a run describe a suite, or tell why there is none. -/
theorem suiteOf_cases (around : Surroundings m)
    (resolved : options.resolve tree = .ok config) :
    (∃ f, suiteOf around config tree = .error f ∧ Unready around options tree f) ∨
      ∃ suite, suiteOf around config tree = .ok suite ∧ Ready around options tree config suite := by
  unfold suiteOf
  cases directory : config.outputDirectory with
  | none => exact .inl ⟨_, rfl, .output resolved directory⟩
  | some output =>
    cases loaded : Task.loadAll tree config.tasksDirectory with
    | error f => exact .inl ⟨f, rfl, .tasks resolved directory loaded⟩
    | ok tasks =>
      cases made : config.model.build around.environment around.transport with
      | error f => exact .inl ⟨f, rfl, .model resolved directory loaded made⟩
      | ok model =>
        cases built : Suite.build
            ⟨some model, limited config tasks, some output, config.policy⟩ with
        | error e =>
          refine .inl ⟨.of (.config e), ?_, .suite resolved directory loaded made built⟩
          show configured (Suite.build _) = _
          rw [← limited, built]
          rfl
        | ok suite =>
          obtain ⟨model_eq, tasks_eq, output_eq, policy_eq⟩ := parts_of_build built
          refine .inr ⟨suite, ?_, resolved, output_eq ▸ directory, ⟨tasks, loaded, tasks_eq⟩,
            model_eq ▸ made, policy_eq⟩
          show configured (Suite.build _) = _
          rw [← limited, built]
          rfl

/-- The settings and the suite of a run that can begin are those that it makes. -/
theorem Ready.suiteOf_eq {suite : Suite m} (h : Ready around options tree config suite) :
    suiteOf around config tree = .ok suite := by
  obtain ⟨-, output, ⟨tasks, loaded, tasks_eq⟩, made, policy⟩ := h
  obtain ⟨model, tasks', directory, policy', wellNamed⟩ := suite
  dsimp only at output tasks_eq made policy
  subst tasks_eq policy
  have built : Suite.build ⟨some model, limited config tasks, some directory, config.policy⟩ =
      .ok ⟨model, limited config tasks, directory, config.policy, wellNamed⟩ := by
    unfold Suite.build
    dsimp only
    split
    · -- a suite carries the proof that its names have no fault
      next fault found =>
      rw [wellNamed] at found
      cases found
    · rfl
  unfold suiteOf
  rw [output]
  dsimp only
  rw [loaded]
  show (config.model.build _ _ >>= fun model => configured (Suite.build
    ⟨some model, limited config tasks, some directory, config.policy⟩)) = _
  rw [made]
  show configured (Suite.build _) = _
  rw [built]
  rfl

/-! ## Failures before the first call -/

/-- A run that cannot begin does nothing: it asks no clock and sends no request, and the files stay
as they are. -/
theorem execute_of_unready {f : Failure} (h : Unready around options tree f) :
    (Command.run options).execute around tree = pure ⟨.error f, "", tree, []⟩ := by
  have suite {config : RunConfig} (resolved : options.resolve tree = .ok config)
      (fails : suiteOf around config tree = .error f) :
      (Command.run options).execute around tree = pure ⟨.error f, "", tree, []⟩ := by
    simp only [Command.execute, resolved, runSuite, fails]
    rfl
  cases h with
  | settings resolved =>
    simp only [Command.execute, resolved]
    rfl
  | output resolved directory =>
    apply suite resolved
    rw [suiteOf, directory]
  | tasks resolved directory loaded =>
    apply suite resolved
    rw [suiteOf, directory]
    dsimp only
    rw [loaded]
    rfl
  | model resolved directory loaded made =>
    apply suite resolved
    rw [suiteOf, directory]
    dsimp only
    rw [loaded]
    show (_ >>= _) = _
    rw [made]
    rfl
  | suite resolved directory loaded made built =>
    apply suite resolved
    rw [suiteOf, directory]
    dsimp only
    rw [loaded]
    show (_ >>= fun model => configured (Suite.build ⟨some model, limited _ _, _, _⟩)) = _
    rw [made]
    show configured (Suite.build _) = _
    rw [built]
    rfl

/-- When a directory cannot be made the run ends there, whatever its policy. -/
theorem execute_of_unprepared [LawfulMonad m] {suite : Suite m} {f : Failure} {left : Files.Tree}
    (ready : Ready around options tree config suite)
    (failed : suite.prepare (.ofNames config.tasks) tree = (some f, left)) :
    (Command.run options).execute around tree = pure ⟨.error f, "", left, []⟩ := by
  have run : suite.runAndPublish around.clock (.ofNames config.tasks) tree =
      pure ⟨.error f, left, []⟩ := by
    simp only [Suite.runAndPublish, Suite.run, failed, pure_bind]
    rfl
  simp only [Command.execute, ready.resolved, runSuite, ready.suiteOf_eq, run, pure_bind]

/-! ## Directories -/

/-- What becomes of the places of a tree while directories are made. -/
theorem fate_makeAll (paths : List String) (tree : Files.Tree) (place : Files.Place) :
    (Suite.makeAll tree paths).2.look place = tree.look place ∨
      tree.look place = none ∧ (Suite.makeAll tree paths).2.look place = some .directory := by
  induction paths generalizing tree with
  | nil => exact .inl rfl
  | cons path rest ih =>
    have first := (Files.Tree.made_makeDirectories tree path).fate place
    unfold Suite.makeAll
    split
    · next next made =>
      rw [made] at first
      -- what the first path did to the place, then what the others did
      rcases ih next with same | ⟨free, there⟩
      · rcases first with kept | ⟨free, there, -⟩
        · exact .inl (same.trans kept)
        · exact .inr ⟨free, same.trans there⟩
      · rcases first with kept | ⟨-, there', -⟩
        · exact .inr ⟨kept.symm.trans free, there⟩
        · rw [free] at there'
          cases there'
    · next e left made =>
      rw [made] at first
      exact first.imp_right fun ⟨free, there, _⟩ => ⟨free, there⟩

theorem not_hasConfigError_makeAll {paths : List String} {tree left : Files.Tree} {f : Failure}
    (failed : Suite.makeAll tree paths = (some f, left)) : ¬ f.HasConfigError := by
  induction paths generalizing tree with
  | nil => cases failed
  | cons path rest ih =>
    unfold Suite.makeAll at failed
    split at failed
    · exact ih failed
    · obtain rfl := Option.some.inj (Prod.mk.inj failed).1
      simp

/-! ## Failures after the first call -/

variable {σ : Type} {outside : Surroundings (StateM σ)}

/-- A run that could begin and has made its directories does not fail for configuration, however
its tasks are done. -/
theorem Ready.noConfigError {suite : Suite (StateM σ)} {prepared : Files.Tree} {run : Run Summary}
    (ready : Ready outside options tree config suite)
    (network : ∀ request w, NoConfigError ((outside.transport request).run w).1)
    (made : suite.prepare (.ofNames config.tasks) tree = (none, prepared))
    (ended : suite.Ends (.ofNames config.tasks) (suite.TaskRuns outside.clock) tree run) :
    NoConfigError (Suite.publish suite.output run).result :=
  Suite.noConfigError_publish (ended.noConfigError made fun call w =>
    ModelChoice.noConfigError_build ready.made network call w)

/-- A run that fails for configuration could not begin. -/
theorem unready_of_hasConfigError {w : σ} {f : Failure}
    (network : ∀ request w, NoConfigError ((outside.transport request).run w).1)
    (failed : (((Command.run options).execute outside tree).run w).1.result = .error f)
    (blamed : f.HasConfigError) : Unready outside options tree f := by
  cases resolved : options.resolve tree with
  | error e =>
    have unready : Unready outside options tree e := .settings resolved
    rw [execute_of_unready unready] at failed
    exact Except.error.inj failed ▸ unready
  | ok config =>
    rcases suiteOf_cases outside resolved with ⟨e, -, unready⟩ | ⟨suite, -, ready⟩
    · rw [execute_of_unready unready] at failed
      exact Except.error.inj failed ▸ unready
    · -- what fails later does not fail for configuration
      exfalso
      cases prepared : suite.prepare (.ofNames config.tasks) tree with
      | mk fault left =>
        cases fault with
        | some e =>
          rw [execute_of_unprepared ready prepared] at failed
          obtain rfl := Except.error.inj failed
          exact not_hasConfigError_makeAll prepared blamed
        | none =>
          have ended := suite.run_ends outside.clock (.ofNames config.tasks) tree w (α := Float)
          refine ready.noConfigError network prepared ended f ?_ blamed
          simp only [Command.execute, resolved, runSuite, ready.suiteOf_eq] at failed
          have both : (suite.runAndPublish outside.clock (.ofNames config.tasks) tree).run w =
              (Suite.publish suite.output
                ((suite.run outside.clock (.ofNames config.tasks) tree).run w).1,
                ((suite.run outside.clock (.ofNames config.tasks) tree).run w).2) := rfl
          rw [StateT.run_bind, both] at failed
          generalize Suite.publish suite.output _ = run at failed ⊢
          cases published : run.result with
          | error e =>
            simp only [bind, published] at failed
            have same : (Except.error e : Except Failure Unit) = .error f := failed
            rw [Except.error.inj same]
          | ok summary =>
            simp only [bind, published] at failed
            cases failed

/-- **A failure before the first call leaves nothing behind**, whatever the command, the policy and
the files. A run can begin or it cannot. If it cannot, it fails for that, has asked no clock and sent
no request, and the files are as they were. If it can, but one of its directories cannot be made, it
fails for that, has again asked and sent nothing, and at most directories were added to the files.
After that, however the tasks are done, no failure has a configuration error among its causes, if
those of the network have none; so a run that fails for configuration is one that cannot begin. -/
theorem failure_before_first_call (around : Surroundings (StateM σ)) (options : RunOptions)
    (tree : Files.Tree) :
    ((∃ f, Unready around options tree f) ∨ ∃ config suite, Ready around options tree config suite) ∧
    (∀ f, Unready around options tree f →
      (Command.run options).execute around tree = pure ⟨.error f, "", tree, []⟩) ∧
    (∀ config suite f left, Ready around options tree config suite →
      suite.prepare (.ofNames config.tasks) tree = (some f, left) →
      (Command.run options).execute around tree = pure ⟨.error f, "", left, []⟩ ∧
      ∀ place, left.look place = tree.look place ∨
        tree.look place = none ∧ left.look place = some .directory) ∧
    ((∀ request w, NoConfigError ((around.transport request).run w).1) →
      (∀ config suite prepared run, Ready around options tree config suite →
        suite.prepare (.ofNames config.tasks) tree = (none, prepared) →
        suite.Ends (.ofNames config.tasks) (suite.TaskRuns around.clock) tree run →
        NoConfigError (Suite.publish suite.output run).result) ∧
      ∀ w f, (((Command.run options).execute around tree).run w).1.result = .error f →
        f.HasConfigError → Unready around options tree f) := by
  refine ⟨?_, fun f => execute_of_unready, ?_, fun network => ⟨?_, ?_⟩⟩
  · cases resolved : options.resolve tree with
    | error f => exact .inl ⟨f, .settings resolved⟩
    | ok config =>
      rcases suiteOf_cases around resolved with ⟨f, -, unready⟩ | ⟨suite, -, ready⟩
      · exact .inl ⟨f, unready⟩
      · exact .inr ⟨config, suite, ready⟩
  · intro config suite f left ready failed
    refine ⟨execute_of_unprepared ready failed, fun place => ?_⟩
    have fate := fate_makeAll (suite.output :: (suite.selected (.ofNames config.tasks)).map
      suite.logDirectory) tree place
    rwa [← Suite.prepare, failed] at fate
  · intro config suite prepared run ready made ended
    exact ready.noConfigError network made ended
  · intro w f failed blamed
    exact unready_of_hasConfigError network failed blamed

/-- A machine without a network, which counts the requests that are sent. -/
def offline : Surroundings (StateM Nat) where
  clock := pure 0
  transport _ := fun requests => (.error (.note "no network"), requests + 1)
  environment _ := none

/-- A run that asks an endpoint about the tasks in the current directory. -/
def networked (output : Option String) : RunOptions where
  config := none
  tasksDirectory := some "."
  outputDirectory := output
  tasks := []
  httpUrl := some "http://localhost/v1"
  model := some "m"
  keyVariable := none
  isolateFailures := false
  maxConcurrency := none

/-- A task of one file, and other files. -/
def singleTree (files : List (Files.Place × Files.Entry)) : Files.Tree :=
  Task.taskTree "*.c" ((["t", "a.c"], .file (.text "int a;")) ::
    (["t", "answers", "a.c"], .file (.text "[]")) :: files)

/-- With a file in the place of the log directory of the task no request is sent, and as little
without an output directory. When the directories can be made one request is sent, and the run does
not fail for configuration. -/
theorem failure_before_first_call_single :
    (∃ f, (Command.run (networked none)).execute offline (singleTree []) =
      pure ⟨.error f, "", singleTree [], []⟩) ∧
    (∃ f left, (Command.run (networked (some "out"))).execute offline
        (singleTree [(["out"], .directory), (["out", "alias"], .file (.text ""))]) =
        pure ⟨.error f, "", left, []⟩ ∧
      left.look ["out", "alias"] = some (.file (.text ""))) ∧
    ∃ f, (((Command.run (networked (some "out"))).execute offline (singleTree [])).run 0).1.result =
        .error f ∧
      (((Command.run (networked (some "out"))).execute offline (singleTree [])).run 0).2 = 1 ∧
      ¬ f.HasConfigError := by
  have network : ∀ request w, NoConfigError ((offline.transport request).run w).1 := by
    intro request w
    exact (noConfigError_error _).mpr (Failure.not_hasConfigError_note _)
  refine ⟨?_, ?_, ?_⟩
  · obtain ⟨-, unready, -⟩ := failure_before_first_call offline (networked none) (singleTree [])
    exact ⟨_, unready _ (.output rfl rfl)⟩
  · let tree := singleTree [(["out"], .directory), (["out", "alias"], .file (.text ""))]
    have blocked : ((suiteOf offline ((networked (some "out")).override .standard) tree).map
        fun s => ((s.prepare .all tree).1.isSome,
          (s.prepare .all tree).2.look ["out", "alias"])).toOption =
        some (true, some (.file (.text ""))) := by
      decide +kernel
    obtain ⟨-, -, unprepared, -⟩ := failure_before_first_call offline (networked (some "out")) tree
    have resolved : (networked (some "out")).resolve tree =
        .ok ((networked (some "out")).override .standard) := rfl
    rcases suiteOf_cases offline resolved with ⟨f, fails, -⟩ | ⟨suite, made, ready⟩
    · rw [fails] at blocked
      cases blocked
    · rw [made] at blocked
      obtain ⟨failed, kept⟩ := Prod.mk.inj (Option.some.inj blocked)
      obtain ⟨f, fault⟩ := Option.isSome_iff_exists.mp failed
      exact ⟨f, _, (unprepared _ suite f _ ready (Prod.ext fault rfl)).1, kept⟩
  · have asked : (fun e : Finish × Nat => (e.1.result.toOption.isNone, e.2))
        (((Command.run (networked (some "out"))).execute offline (singleTree [])).run 0) =
        (true, 1) := by
      decide +kernel
    obtain ⟨failed, once⟩ := Prod.mk.inj asked
    obtain ⟨-, unready, -, late⟩ := failure_before_first_call offline (networked (some "out"))
      (singleTree [])
    cases result : (((Command.run (networked (some "out"))).execute offline
        (singleTree [])).run 0).1.result with
    | ok _ => rw [result] at failed; cases failed
    | error f =>
      refine ⟨f, rfl, once, fun blamed => ?_⟩
      -- a run that cannot begin would not have sent the request
      rw [unready f ((late network).2 0 f result blamed)] at once
      cases once

end Assay.CommandLine
