import Assay.Proofs.Shape.Departures
import Assay.Proofs.Task.Metrics

/-!
# What a run of a task warns about

A program deserves a warning for a reply without completions, for a prediction that cannot be read,
and for one that the declared shape refuses (`Program.Deserves`); the first two may come together.
Main statement: however a run of a task ends, each warning is reported as many times as there are
programs that deserve it, each event is such a warning, and it names the task and the program. For
the run that makes one call at a time the replies are those that the model gave in it.
-/

namespace Assay

namespace Program

variable {p : Program} {config : TaskConfig} {model : Call → Reply} {event : Event}

/-! ## Warnings that are deserved -/

/-- The warnings that a program deserves. It is a single file, and the model replied: without any
completion; with a first completion that is no JSON, also after its quotes were replaced, where no
completion counts as the empty one; or with a prediction that the shape declared for answers refuses,
for the reason that is told. -/
inductive Deserves (p : Program) (config : TaskConfig) (model : Call → Reply) : Event → Prop
  | noSamples {text : String} {language : Language} (file : p.source = .file text language)
      (none : model (.ofPrompt text) = .ok []) :
      Deserves p config model (.noSamples config.name p.name)
  | unreadable {text : String} {language : Language} {completions : List String} {error : String}
      (file : p.source = .file text language)
      (replied : model (.ofPrompt text) = .ok completions)
      (unread : readPrediction (completions.headD "") = .error error) :
      Deserves p config model (.unreadable config.name p.name (completions.headD "") error)
  | misfit {text : String} {language : Language} {completions : List String} {prediction : Json}
      {shape : Shape} {reason : String} (file : p.source = .file text language)
      (replied : model (.ofPrompt text) = .ok completions)
      (read : readPrediction (completions.headD "") = .ok prediction)
      (declared : config.shape = some shape) (refused : shape.check prediction = .error reason) :
      Deserves p config model (.misfit config.name p.name shape.spell reason)

/-- A deserved warning tells which task and which program it is about. -/
theorem Deserves.fields (h : p.Deserves config model event) :
    event.level = .warn ∧ ("task", config.name) ∈ event.fields ∧
      ("program", p.name) ∈ event.fields := by
  cases h with
  | noSamples => simp [Event.level, Event.fields]
  | unreadable => simp [Event.level, Event.fields]
  | misfit => simp [Event.level, Event.fields]

/-! ## What an attempt warns about -/

theorem mem_misfits_iff {prediction : Json} :
    event ∈ p.misfits config prediction ↔ ∃ shape reason, config.shape = some shape ∧
      shape.check prediction = .error reason ∧
      event = .misfit config.name p.name shape.spell reason := by
  unfold misfits
  split
  · next none => simp [none]
  · next shape declared =>
    split
    · next fits => simp [declared, fits]
    · next reason refused => simp [declared, refused]

/-- What is reported of a completion is what is wrong with it. -/
theorem mem_completed_iff {timing : Timing} {output : String} :
    event ∈ (p.completed config timing output).events ↔
      (∃ error, readPrediction output = .error error ∧
        event = .unreadable config.name p.name output error) ∨
      ∃ prediction, readPrediction output = .ok prediction ∧
        event ∈ p.misfits config prediction := by
  unfold completed
  split
  · next prediction read => simp [read]
  · next error unread => simp [unread]

/-- What is reported of a reply is that it is empty, and what is wrong with its first completion. -/
theorem mem_replied_iff {timing : Timing} {reply : Reply} :
    event ∈ (p.replied config timing reply).events ↔ ∃ completions, reply = .ok completions ∧
      ((completions = [] ∧ event = .noSamples config.name p.name) ∨
        event ∈ (p.completed config timing (completions.headD "")).events) := by
  cases reply with
  | error f => simp [replied, failed]
  | ok completions =>
    cases completions with
    | nil => simp [replied]
    | cons output others => simp [replied]

/-- An attempt warns about what its program deserves to be warned about. -/
theorem mem_events_iff {start finish : Nat} :
    event ∈ (p.answered config start finish model).events ↔ p.Deserves config model event := by
  rw [answered_eq, call?]
  cases file : p.source with
  | project path build =>
    refine iff_of_false List.not_mem_nil ?_
    intro deserved
    cases deserved with
    | noSamples file' => cases file.symm.trans file'
    | unreadable file' => cases file.symm.trans file'
    | misfit file' => cases file.symm.trans file'
  | file text language =>
    dsimp only
    rw [mem_replied_iff]
    constructor
    · rintro ⟨completions, replied, ⟨rfl, rfl⟩ | mem⟩
      · exact .noSamples file replied
      · rcases mem_completed_iff.mp mem with ⟨error, unread, rfl⟩ | ⟨prediction, read, mem⟩
        · exact .unreadable file replied unread
        · obtain ⟨shape, reason, declared, refused, rfl⟩ := mem_misfits_iff.mp mem
          exact .misfit file replied read declared refused
    · intro deserved
      cases deserved with
      | noSamples file' none =>
        obtain ⟨rfl, rfl⟩ := Source.file.inj (file.symm.trans file')
        exact ⟨[], none, .inl ⟨rfl, rfl⟩⟩
      | unreadable file' replied unread =>
        obtain ⟨rfl, rfl⟩ := Source.file.inj (file.symm.trans file')
        exact ⟨_, replied, .inr (mem_completed_iff.mpr (.inl ⟨_, unread, rfl⟩))⟩
      | misfit file' replied read declared refused =>
        obtain ⟨rfl, rfl⟩ := Source.file.inj (file.symm.trans file')
        refine ⟨_, replied, .inr (mem_completed_iff.mpr (.inr ⟨_, read, ?_⟩))⟩
        exact mem_misfits_iff.mpr ⟨_, _, declared, refused, rfl⟩

instance : Decidable (p.Deserves config model event) :=
  decidable_of_iff (event ∈ (p.answered config 0 0 model).events) mem_events_iff

theorem nodup_completed (timing : Timing) (output : String) :
    (p.completed config timing output).events.Nodup := by
  unfold completed
  split
  · unfold misfits
    split
    · exact List.nodup_nil
    · split
      · exact List.nodup_nil
      · exact List.nodup_singleton _
  · exact List.nodup_singleton _

/-- No attempt gives a warning twice. -/
theorem nodup_events (start finish : Nat) :
    (p.answered config start finish model).events.Nodup := by
  rw [answered_eq]
  split
  · exact List.nodup_nil
  · unfold replied
    split
    · exact List.nodup_nil
    · exact nodup_completed _ _
    · refine List.nodup_cons.mpr ⟨?_, nodup_completed _ _⟩
      -- a completion is not warned about as if there were none
      intro mem
      rcases mem_completed_iff.mp mem with ⟨_, _, same⟩ | ⟨_, _, mem⟩
      · cases same
      · obtain ⟨_, _, _, _, same⟩ := mem_misfits_iff.mp mem
        cases same

theorem count_events (start finish : Nat) :
    (p.answered config start finish model).events.count event =
      if p.Deserves config model event then 1 else 0 := by
  rw [(nodup_events start finish).count]
  simp only [mem_events_iff]

end Program

/-! ## What a run warns about -/

/-- Elements of which each gives an event once or not at all give it as many times as there are such
that give it. -/
theorem count_flatMap_eq_countP {events : γ → List Event} {event : Event} {R : δ → γ → Prop}
    {gives : δ → Bool} (once : ∀ d c, R d c → (events c).count event = if gives d then 1 else 0)
    {ds : List δ} {cs : List γ} (all : List.Forall₂ R ds cs) :
    (cs.flatMap events).count event = ds.countP gives := by
  induction all with
  | nil => rfl
  | cons first _ ih =>
    rw [List.flatMap_cons, List.count_append, once _ _ first, ih, List.countP_cons, Nat.add_comm]

namespace Task

variable {t : Task} {reply : Nat → Call → Reply} {Tells : Nat → Prop} {directory : String}
  {tree : Files.Tree} {attempts : List Attempt}

/-- What is reported of a task, if the model replied to its programs in some way: each warning as many
times as there are programs that deserve it, so that there is none about a program that cannot be
asked about or whose call failed, and nothing else. What is reported names the task and one of its
programs. -/
structure Warned (t : Task) (reply : Nat → Call → Reply) (events : List Event) : Prop where
  counted : ∀ event, events.count event =
    t.programs.zipIdx.countP fun e => e.1.Deserves t.config (reply e.2) event
  named : ∀ event ∈ events, event.level = .warn ∧ ("task", t.name) ∈ event.fields ∧
    ∃ p ∈ t.programs, ("program", p.name) ∈ event.fields

theorem Ends.warned [Arithmetic α] {run : Run (Register α)}
    (ended : t.Ends reply Tells directory tree run) : t.Warned reply run.events := by
  obtain ⟨attempts, attempted, rfl⟩ := ends_iff.mp ended
  rw [attempted.conclude_events directory tree]
  have counted (event : Event) : (attempts.flatMap Attempt.events).count event =
      t.programs.zipIdx.countP fun e => e.1.Deserves t.config (reply e.2) event := by
    refine count_flatMap_eq_countP ?_ (attempted_iff_forall₂.mp attempted)
    rintro ⟨p, place⟩ attempt ⟨start, finish, -, -, rfl⟩
    rw [p.count_events]
    simp only [decide_eq_true_eq]
  refine ⟨counted, ?_⟩
  intro event mem
  have some := List.count_pos_iff.mpr mem
  rw [counted] at some
  obtain ⟨⟨p, place⟩, member, deserved⟩ := List.countP_pos_iff.mp some
  obtain ⟨warns, task, program⟩ := (of_decide_eq_true deserved).fields
  exact ⟨warns, task, p, List.fst_mem_of_mem_zipIdx member, program⟩

/-- **A run warns about what deserves it.** Whatever the model replies, and however a run of a task
ends, what is reported are the warnings that are deserved. So it is when the calls are made one at a
time: the replies are then those that the model gave, which are told by the record that it may keep
of them, with one call for each program that can be asked about. An answer is refused just when it
does not fit the shape, unless that is a matter of numbers in sets that are no integers. -/
theorem warnings_deserved [Arithmetic α] (t : Task) (directory : String) (tree : Files.Tree) :
    (∀ {reply : Nat → Call → Reply} {Tells : Nat → Prop} {run : Run (Register α)},
      t.Ends reply Tells directory tree run → t.Warned reply run.events) ∧
    (∀ {σ : Type} (clock : Clock (StateM σ)) (model : Model (StateM σ)) (w : σ),
      ∃ run record reply,
        ((t.run clock model directory tree : StateM σ (Run (Register α))).run w).1 = run ∧
        (((t.run (StateT.lift clock) model.recording directory tree :
          StateT _ (StateM σ) (Run (Register α))).run []).run w).1 = (run, record) ∧
        t.Transcript model record reply ∧ t.Warned reply run.events) ∧
    ∀ (shape : Shape) answer, shape.IntegersInSets answer →
      ((∃ reason, shape.check answer = .error reason) ↔ ¬ shape.Fits answer) := by
  refine ⟨Ends.warned, ?_, ?_⟩
  · intro σ clock model w
    obtain ⟨record, reply, transcript, ended, recorded⟩ :=
      t.run_recording (α := α) clock model directory tree w
    exact ⟨_, record, reply, rfl, recorded, transcript, ended.warned⟩
  · intro shape answer whole
    rw [← Shape.departures_eq_nil_iff whole, ← Shape.check_of_departures.1]
    cases shape.check answer with
    | ok => simp
    | error reason => simp

/-- The first file is answered by a list where a string is wanted and the second one not at all, which
is warned about twice: as a reply without completions and as an empty one. -/
theorem warnings_deserved_talkative :
    ∃ run : Run (Register Rat),
      run = ((declaring.run (pure 0) (fun call => pure (talkative call)) "." (.empty [])
        : StateM Unit _).run ()).1 ∧
      declaring.Ends (fun _ => talkative) (Told (pure 0 : Clock (StateM Unit))) "." (.empty []) run ∧
      run.events.count (.misfit "alias" "a.c" "str" ": [\"v\"] is not of type \"string\"") = 1 ∧
      run.events.count (.noSamples "alias" "b.c") = 1 ∧
      run.events.count (.unreadable "alias" "b.c" ""
        "EOF while parsing a value at line 1 column 0") = 1 ∧
      run.events.count (.noSamples "alias" "a.c") = 0 ∧
      ¬ Shape.str.Fits (.arr [.str "v"]) := by
  obtain ⟨ends, runs, shapes⟩ := warnings_deserved (α := Rat) declaring "." (.empty [])
  let clock : Clock (StateM Unit) := pure 0
  obtain ⟨_, record, reply, rfl, -, transcript, warned⟩ :=
    runs clock (fun call => pure (talkative call)) ()
  obtain rfl := transcript.reply_eq
  obtain ⟨record, reply, transcript, ended, -⟩ := declaring.run_recording (α := Rat) clock
    (fun call => pure (talkative call)) "." (.empty []) ()
  obtain rfl := transcript.reply_eq
  have asked := warned.counted
  have counted := (ends ended).counted
  refine ⟨_, rfl, ended, (asked _).trans (by decide +kernel), (asked _).trans (by decide +kernel),
    (counted _).trans (by decide +kernel), (counted _).trans (by decide +kernel), ?_⟩
  exact (shapes .str (.arr [.str "v"]) trivial).mp ⟨_, rfl⟩

end Task

end Assay
