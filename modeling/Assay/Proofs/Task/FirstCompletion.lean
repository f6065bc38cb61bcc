import Assay.Proofs.Task.Audit

/-!
# Only the first completion counts

What a run comes to and what it logs depends on its task by the name, the metric and the programs
only, and on the replies of the model by their first completions: a reply without any counts as the
empty completion, and the declared shape of predictions decides about warnings alone. So two runs
that agree in these come to the same result, and to the same log but for its times.
-/

namespace Assay

/-- What counts of a reply: its first completion, the empty one if there is none, or its failure. -/
def firstCompletion (reply : Reply) : Except Failure String :=
  reply.map fun completions => completions.headD ""

namespace Program

/-! ## What an attempt comes to -/

/-- What comes of putting a program to a model, from the first completions of the model. -/
def outcomeOf (p : Program) (completion : Call → Except Failure String) : Except Failure Json :=
  match p.call? with
  | none => .error p.unsupported
  | some call =>
    match completion call with
    | .error f => .error (f.within ("Model call failed for " ++ p.name))
    | .ok output => .ok (predictionOf output)

/-- What is logged of putting a program to a model, from the first completions of the model. -/
def traceOf (p : Program) (timing : Timing) (completion : Call → Except Failure String) : Trace :=
  match p.call? with
  | none => ⟨p.name, timing, none, false, some p.unsupported.message⟩
  | some call =>
    match completion call with
    | .error f => ⟨p.name, timing, none, false, some f.message⟩
    | .ok output => ⟨p.name, timing, some output, (readPrediction output).isOk, none⟩

variable (p : Program) (config : TaskConfig) (timing : Timing) (start finish : Nat)

theorem completed_outcome (output : String) :
    (p.completed config timing output).outcome = .ok (predictionOf output) := by
  rw [completed, predictionOf]
  cases readPrediction output with
  | ok prediction => rfl
  | error message => rfl

theorem completed_trace (output : String) :
    (p.completed config timing output).trace =
      ⟨p.name, timing, some output, (readPrediction output).isOk, none⟩ := by
  rw [completed]
  cases readPrediction output with
  | ok prediction => rfl
  | error message => rfl

theorem answered_outcome (model : Call → Reply) :
    (p.answered config start finish model).outcome =
      p.outcomeOf fun call => firstCompletion (model call) := by
  rw [answered_eq, outcomeOf]
  cases p.call? with
  | none => rfl
  | some call =>
    dsimp only
    cases model call with
    | error f => rfl
    | ok completions =>
      -- a reply without completions warns, but counts as the empty one
      cases completions with
      | nil => exact p.completed_outcome config (.between start finish) ""
      | cons output _ => exact p.completed_outcome config (.between start finish) output

theorem answered_trace (model : Call → Reply) :
    (p.answered config start finish model).trace =
      p.traceOf (.between start finish) fun call => firstCompletion (model call) := by
  rw [answered_eq, traceOf]
  cases p.call? with
  | none => rfl
  | some call =>
    dsimp only
    cases model call with
    | error f => rfl
    | ok completions =>
      cases completions with
      | nil => exact p.completed_trace config (.between start finish) ""
      | cons output _ => exact p.completed_trace config (.between start finish) output

/-! ## Completions that agree -/

theorem call?_ofPrompt {p : Program} {call : Call} (called : p.call? = some call) :
    call = .ofPrompt call.prompt := by
  obtain ⟨name, gold, source⟩ := p
  cases source with
  | file text language =>
    obtain rfl : Call.ofPrompt text = call := Option.some.inj called
    rfl
  | project path build => cases called

variable {completion completion' : Call → Except Failure String}

theorem outcomeOf_congr
    (same : ∀ prompt, completion (.ofPrompt prompt) = completion' (.ofPrompt prompt)) :
    p.outcomeOf completion = p.outcomeOf completion' := by
  rw [outcomeOf, outcomeOf]
  cases called : p.call? with
  | none => rfl
  | some call =>
    dsimp only
    rw [call?_ofPrompt called, same]

theorem traceOf_congr (timing' : Timing)
    (same : ∀ prompt, completion (.ofPrompt prompt) = completion' (.ofPrompt prompt)) :
    (p.traceOf timing completion).SameButTimes (p.traceOf timing' completion') := by
  rw [traceOf, traceOf]
  cases called : p.call? with
  | none => rfl
  | some call =>
    dsimp only
    rw [call?_ofPrompt called, same]
    cases completion' (.ofPrompt call.prompt) with
    | error f => rfl
    | ok output => rfl

end Program

namespace Task

variable {t u : Task} {reply reply' : Nat → Call → Reply} {Tells Tells' : Nat → Prop}
  {attempts attempts' : List Attempt}

/-- Attempts that get the same first completions have equal outcomes, and traces that are equal but
for their times. -/
theorem Attempted.forall₂_of_first (h : t.Attempted reply Tells attempts)
    (h' : u.Attempted reply' Tells' attempts') (programs : t.programs = u.programs)
    (same : ∀ place prompt, firstCompletion (reply place (.ofPrompt prompt)) =
      firstCompletion (reply' place (.ofPrompt prompt))) :
    List.Forall₂ (fun a b => a.trace.SameButTimes b.trace ∧ a.outcome = b.outcome)
      attempts attempts' := by
  have made := attempted_iff_forall₂.mp h
  have made' := attempted_iff_forall₂.mp h'
  -- both attempts at a place are made of the program at that place
  rw [programs] at made
  refine (forall₂_of_common made made').imp ?_
  rintro _ _ ⟨⟨p, place⟩, ⟨start, finish, -, -, rfl⟩, start', finish', -, -, rfl⟩
  rw [p.answered_trace, p.answered_trace, p.answered_outcome, p.answered_outcome]
  exact ⟨p.traceOf_congr _ _ (same place), p.outcomeOf_congr (same place)⟩

/-- The verdict over attempts depends on the name, the metric and the programs of a task. -/
theorem verdict_congr [Arithmetic α] (name : t.name = u.name)
    (metric : t.config.metric = u.config.metric) (programs : t.programs = u.programs)
    (outcomes : attempts.map Attempt.outcome = attempts'.map Attempt.outcome) :
    (t.verdict attempts : Except Failure (Register α)) = u.verdict attempts' := by
  have scoring : ∀ p outcome,
      (t.scoreOf p outcome : Except Failure (Register α)) = u.scoreOf p outcome := by
    intro p outcome
    cases outcome with
    | ok prediction => simp only [scoreOf, metric]
    | error f => simp only [scoreOf, name]
  rw [verdict, verdict, scores_eq, scores_eq, programs, outcomes]
  simp only [scoring]

/-- **Shapes and further completions do not matter.** Two tasks may differ in everything but their
names, metrics and programs, and two models in everything but their failures and the first
completions of their replies to prompts, where a reply without completions counts as the empty
one. However runs of the two over one tree end, they have the same result, and they wrote logs of
the same traces but for their times, or none. -/
theorem first_completion_decides [Arithmetic α] (directory : String) (tree : Files.Tree)
    {run run' : Run (Register α)} (name : t.config.name = u.config.name)
    (metric : t.config.metric = u.config.metric) (programs : t.programs = u.programs)
    (same : ∀ place prompt, firstCompletion (reply place (.ofPrompt prompt)) =
      firstCompletion (reply' place (.ofPrompt prompt)))
    (ended : t.Ends reply Tells directory tree run)
    (ended' : u.Ends reply' Tells' directory tree run') :
    run.result = run'.result ∧
      ∃ traces traces', List.Forall₂ Trace.SameButTimes traces traces' ∧
        run.tree = Log.after tree directory traces ∧
        run'.tree = Log.after tree directory traces' := by
  obtain ⟨attempts, attempted, rfl⟩ := ends_iff.mp ended
  obtain ⟨attempts', attempted', rfl⟩ := ends_iff.mp ended'
  have pairs := attempted.forall₂_of_first attempted' programs same
  have outcomes : attempts.map Attempt.outcome = attempts'.map Attempt.outcome :=
    map_eq_of_forall₂ (fun _ _ h => h.2) pairs
  refine ⟨?_, attempts.map Attempt.trace, attempts'.map Attempt.trace, ?_, ?_, ?_⟩
  · -- a log that cannot be written fails both runs, under the name of their tasks
    cases found : tree.slot (Log.path directory) with
    | error e =>
      rw [conclude_result_of_slot_error found, conclude_result_of_slot_error found, Task.name, name,
        Task.name]
    | ok place =>
      rw [conclude_result_of_slot found, conclude_result_of_slot found]
      exact verdict_congr name metric programs outcomes
  · rw [List.forall₂_map_left_iff, List.forall₂_map_right_iff]
    exact pairs.imp fun _ _ h => h.1
  · exact conclude_tree_eq t directory attempts tree
  · exact conclude_tree_eq u directory attempts' tree

/-- A task of two files that declares its answers to be strings. -/
def declaring : Task where
  config := ⟨"alias", "", .perFile, [], .c, "", .prf1, some .str, "*.c", "answers"⟩
  programs := [⟨"a.c", .arr [.str "v"], .file "a" .c⟩, ⟨"b.c", .null, .file "b" .c⟩]
  maxConcurrency := some 1

/-- The task that declares nothing, with another description, pattern and place of answers. -/
def undeclared : Task :=
  { declaring with
    config := ⟨"alias", "more", .perFile, ["tag"], .c, "me", .prf1, none, "*", "gold"⟩ }

/-- A model that gives two completions for the first file and none for the second. -/
def talkative (call : Call) : Reply :=
  if call.prompt = "a" then .ok ["['v']", "['w']"] else .ok []

/-- A model that gives only the first of them, and an empty one for the second file. -/
def terse (call : Call) : Reply :=
  if call.prompt = "a" then .ok ["['v']"] else .ok [""]

/-- The first task warns of a misfit and of a reply without completions and the second of neither,
and with the second clock every call takes a millisecond; the results are the same. -/
theorem first_completion_decides_talkative :
    ∃ run run' : Run (Register Rat),
      run = ((declaring.run (pure 0) (fun call => pure (talkative call)) "." (.empty [])
        : StateM Nat _).run 0).1 ∧
      run' = ((undeclared.run (fun n => (n, n + 1000000)) (fun call => pure (terse call)) "."
        (.empty []) : StateM Nat _).run 0).1 ∧
      run.events.length = 3 ∧ run'.events.length = 1 ∧ run.result = run'.result := by
  obtain ⟨reply, answers, ended⟩ := run_ends (α := Rat) declaring (pure 0 : Clock (StateM Nat))
    (fun call => pure (talkative call)) "." (.empty []) 0
  obtain ⟨reply', answers', ended'⟩ := run_ends (α := Rat) undeclared
    (fun n => (n, n + 1000000) : Clock (StateM Nat)) (fun call => pure (terse call)) "."
    (.empty []) 0
  have same : ∀ place prompt, firstCompletion (reply place (.ofPrompt prompt)) =
      firstCompletion (reply' place (.ofPrompt prompt)) := by
    intro place prompt
    obtain ⟨_, told⟩ := answers place (.ofPrompt prompt)
    obtain ⟨_, told'⟩ := answers' place (.ofPrompt prompt)
    rw [← told, ← told']
    show firstCompletion (talkative (.ofPrompt prompt)) = firstCompletion (terse (.ofPrompt prompt))
    by_cases first : (Call.ofPrompt prompt).prompt = "a"
    · rw [talkative, terse, if_pos first, if_pos first]
      rfl
    · rw [talkative, terse, if_neg first, if_neg first]
      rfl
  exact ⟨_, _, rfl, rfl, by decide, by decide,
    (first_completion_decides (t := declaring) (u := undeclared) "." (.empty []) rfl rfl rfl same
      ended ended').1⟩

end Task

end Assay
