import Assay.Proofs.CommandLine.Spelling
import Assay.Proofs.FirstFailure
import Assay.Proofs.Register

/-!
# Options override a configuration

A run begins with the settings of its configuration file, or with the standard ones, and its options
change them field by field. Main statement: each setting is that of its option if this was given and
else as it was; the model is made of the options alone as soon as they name an endpoint, so a key is
never sent to another endpoint than the one it was meant for. Which options are given is told of the
arguments, whatever their order and spelling.
-/

namespace Assay.CommandLine

variable {o : RunOptions} {given : Settled} {args : List String} {base c : RunConfig}

/-! ## Options of a run -/

theorem distinguished_runFlags : Distinguished runFlags where
  names := by decide
  solid := by decide

/-- The options that some arguments give: those that were written, with their values, and of the
tasks all of them in their order. -/
structure RunOptions.GivenBy (o : RunOptions) (given : Settled) : Prop where
  config : ∀ path, o.config = some path ↔ ("config", path) ∈ given
  tasksDirectory : ∀ path, o.tasksDirectory = some path ↔ ("tasks-directory", path) ∈ given
  outputDirectory : ∀ path, o.outputDirectory = some path ↔ ("output-directory", path) ∈ given
  tasks : o.tasks = (given.filter fun option => option.1 == "task").map Prod.snd
  httpUrl : ∀ url, o.httpUrl = some url ↔ ("http-url", url) ∈ given
  model : ∀ name, o.model = some name ↔ ("model", name) ∈ given
  keyVariable : ∀ name, o.keyVariable = some name ↔ ("api-key-env", name) ∈ given
  isolateFailures : o.isolateFailures = true ↔ "isolate-failures" ∈ given.map Prod.fst
  maxConcurrency : ∀ limit, o.maxConcurrency = some limit ↔
    ∃ text, ("max-concurrency", text) ∈ given ∧ count? text = some limit

/-- The value of an option that is not repeated is found by its name. -/
theorem lookup_eq_some_iff {name : String} (once : Unrepeated runFlags given)
    (single : (runFlags.any fun flag => flag.name == name && !flag.repeatable) = true)
    {value : String} : given.lookup name = some value ↔ (name, value) ∈ given := by
  obtain ⟨flag, known, same⟩ := List.any_eq_true.mp single
  obtain ⟨rfl, unrepeatable⟩ : flag.name = name ∧ flag.repeatable = false := by simpa using same
  apply Register.lookup_eq_some_iff
  apply once.imp
  intro p q again same named
  obtain ⟨other, mem, other_named, repeatable⟩ := again same
  have only : other = flag :=
    List.inj_on_of_nodup_map distinguished_runFlags.names mem known
      (other_named.trans (same.symm.trans named))
  rw [only, unrepeatable] at repeatable
  cases repeatable

theorem eq_lookup_iff {name : String} (once : Unrepeated runFlags given)
    (single : (runFlags.any fun flag => flag.name == name && !flag.repeatable) = true)
    {found : Option String} :
    (∀ value, found = some value ↔ (name, value) ∈ given) ↔ found = given.lookup name := by
  simp only [← lookup_eq_some_iff once single]
  exact ⟨Option.ext, fun same value => by rw [same]⟩

theorem isSome_lookup_iff {name : String} :
    (given.lookup name).isSome = true ↔ name ∈ given.map Prod.fst := by
  rw [Option.isSome_iff_ne_none, ne_eq, Register.lookup_eq_none_iff, not_not]

/-- What was settled is read as the options that were given. -/
theorem givenBy_iff (once : Unrepeated runFlags given) :
    o.GivenBy given ↔ o = .ofSettled given := by
  have limits (limit : Nat) : (given.lookup "max-concurrency").bind count? = some limit ↔
      ∃ text, ("max-concurrency", text) ∈ given ∧ count? text = some limit := by
    have found (text : String) : given.lookup "max-concurrency" = some text ↔
        ("max-concurrency", text) ∈ given := lookup_eq_some_iff once rfl
    simp only [Option.bind_eq_some_iff, found]
  constructor
  · intro h
    have isolate : o.isolateFailures = (given.lookup "isolate-failures").isSome := by
      rw [Bool.eq_iff_iff, h.isolateFailures, isSome_lookup_iff]
    have limit : o.maxConcurrency = (given.lookup "max-concurrency").bind count? := by
      ext n
      rw [limits, h.maxConcurrency]
    unfold RunOptions.ofSettled
    rw [← (eq_lookup_iff once rfl).mp h.config, ← (eq_lookup_iff once rfl).mp h.tasksDirectory,
      ← (eq_lookup_iff once rfl).mp h.outputDirectory, ← h.tasks,
      ← (eq_lookup_iff once rfl).mp h.httpUrl, ← (eq_lookup_iff once rfl).mp h.model,
      ← (eq_lookup_iff once rfl).mp h.keyVariable, ← isolate, ← limit]
  · rintro rfl
    exact ⟨(eq_lookup_iff once rfl).mpr rfl, (eq_lookup_iff once rfl).mpr rfl,
      (eq_lookup_iff once rfl).mpr rfl, rfl, (eq_lookup_iff once rfl).mpr rfl,
      (eq_lookup_iff once rfl).mpr rfl, (eq_lookup_iff once rfl).mpr rfl, isSome_lookup_iff, limits⟩

/-- The options of an endpoint need each other: a URL a model, a model a URL, and a key a URL. -/
structure RunOptions.Admitted (o : RunOptions) : Prop where
  model_of_url : o.httpUrl ≠ none → o.model ≠ none
  url_of_model : o.model ≠ none → o.httpUrl ≠ none
  url_of_key : o.keyVariable ≠ none → o.httpUrl ≠ none

theorem isComplete_iff : o.isComplete = true ↔ o.Admitted := by
  have cases_on : o.isComplete = true ↔ (o.httpUrl ≠ none ↔ o.model ≠ none) ∧
      (o.keyVariable ≠ none → o.httpUrl ≠ none) := by
    unfold RunOptions.isComplete
    cases o.httpUrl <;> cases o.model <;> cases o.keyVariable <;> simp
  rw [cases_on]
  exact ⟨fun h => ⟨h.1.mp, h.1.mpr, h.2⟩, fun h => ⟨⟨h.model_of_url, h.url_of_model⟩, h.url_of_key⟩⟩

/-- A run is asked for by arguments that write its options. -/
theorem parse_run_eq_ok_iff (admitted : o.Admitted) :
    Command.parse ("run" :: args) = .ok (.run o) ↔
      ∃ given, Written runFlags given args ∧ Unrepeated runFlags given ∧ o.GivenBy given := by
  rw [Command.parse]
  constructor
  · intro parsed
    rw [bind_eq_ok] at parsed
    obtain ⟨given, read, parsed⟩ := parsed
    obtain ⟨written, once⟩ := (readOptions_eq_ok_iff distinguished_runFlags).mp read
    refine ⟨given, written, once, (givenBy_iff once).mpr ?_⟩
    dsimp only at parsed
    split at parsed
    · cases parsed
      rfl
    · cases parsed
  · rintro ⟨given, written, once, told⟩
    have complete := isComplete_iff.mpr admitted
    obtain rfl := (givenBy_iff once).mp told
    rw [(readOptions_eq_ok_iff distinguished_runFlags).mpr ⟨written, once⟩]
    show (if _ then _ else _) = _
    rw [if_pos complete]

/-! ## Settings -/

/-- The settings that the options of a run change: those of a file that was loaded, or the standard
ones. -/
inductive RunOptions.StartsFrom (o : RunOptions) (tree : Files.Tree) : RunConfig → Prop
  | standard (absent : o.config = none) : o.StartsFrom tree .standard
  | file {path base} (named : o.config = some path) (loaded : RunConfig.load tree path = .ok base) :
      o.StartsFrom tree base

/-- Each setting is that of its options if they were given, and else as it was before. -/
structure Overridden (o : RunOptions) (base c : RunConfig) : Prop where
  tasksDirectory : (∀ path, o.tasksDirectory = some path → c.tasksDirectory = path) ∧
    (o.tasksDirectory = none → c.tasksDirectory = base.tasksDirectory)
  outputDirectory : (∀ path, o.outputDirectory = some path → c.outputDirectory = some path) ∧
    (o.outputDirectory = none → c.outputDirectory = base.outputDirectory)
  tasks : (o.tasks ≠ [] → c.tasks = some o.tasks) ∧ (o.tasks = [] → c.tasks = base.tasks)
  model : (∀ url, o.httpUrl = some url →
      ∃ name, o.model = some name ∧ c.model = .http url name o.keyVariable) ∧
    (o.httpUrl = none → c.model = base.model)
  policy : (o.isolateFailures = true → c.policy = .isolate) ∧
    (o.isolateFailures = false → c.policy = base.policy)
  maxConcurrency : (∀ limit, o.maxConcurrency = some limit → c.maxConcurrency = some limit) ∧
    (o.maxConcurrency = none → c.maxConcurrency = base.maxConcurrency)

theorem overridden_override (admitted : o.Admitted) (base : RunConfig) :
    Overridden o base (o.override base) where
  tasksDirectory := by
    constructor <;> simp +contextual [RunOptions.override]
  outputDirectory := by
    constructor <;> simp +contextual [RunOptions.override]
  tasks := by
    constructor <;> simp +contextual [RunOptions.override]
  model := by
    constructor
    · intro url named
      obtain ⟨name, model⟩ := Option.ne_none_iff_exists'.mp (admitted.model_of_url (by simp [named]))
      exact ⟨name, model, by simp [RunOptions.override, RunOptions.modelChoice?, named, model]⟩
    · intro absent
      simp [RunOptions.override, RunOptions.modelChoice?, absent]
  policy := by
    constructor <;> simp +contextual [RunOptions.override]
  maxConcurrency := by
    constructor <;> simp +contextual [RunOptions.override]

/-- The settings of a run are those that it starts from, changed by its options. -/
theorem resolve_of_startsFrom {tree : Files.Tree} (h : o.StartsFrom tree base) :
    o.resolve tree = .ok (o.override base) := by
  unfold RunOptions.resolve
  cases h with
  | standard absent =>
    rw [absent]
    rfl
  | file named loaded =>
    rw [named]
    show (RunConfig.load tree _ >>= _) = _
    rw [loaded]
    rfl

/-- **Options override the configuration field by field.** Let the options of an endpoint that a run
has be given together. Whatever settings the run starts from, it gets settings of which each is that
of its options if they were given, and else as it was: the directories, the limit and the names of
the tasks (if there is one at least), the policy to isolate failures, and the model of just the URL,
the name and the key variable of the options, without any key if that was not given, whatever model
there was before. And a run has these options just when its arguments write them, in any order and
spelling, with the repeatable ones alone occurring again. -/
theorem options_override (o : RunOptions) (admitted : o.Admitted) :
    (∀ tree base, o.StartsFrom tree base →
      ∃ c, o.resolve tree = .ok c ∧ Overridden o base c) ∧
    ∀ args, Command.parse ("run" :: args) = .ok (.run o) ↔
      ∃ given, Written runFlags given args ∧ Unrepeated runFlags given ∧ o.GivenBy given := by
  refine ⟨?_, fun _ => parse_run_eq_ok_iff admitted⟩
  intro tree base starts
  exact ⟨_, resolve_of_startsFrom starts, overridden_override admitted base⟩

/-- A configuration with an endpoint that needs a key. -/
def keyedConfiguration : String :=
  "output_directory: out\ntasks: [a]\n" ++
    "model:\n  type: http\n  url: u\n  model: m\n  api_key_env: KEY\n"

/-- The configuration in a file. -/
def keyedTree : Files.Tree :=
  ⟨[], [(["c.yaml"], .file (.text keyedConfiguration))]⟩

/-- Options that name another endpoint, which needs none, and two tasks. -/
def keylessOptions : RunOptions :=
  ⟨some "c.yaml", none, none, ["b", "a"], some "http://h/v1", some "-", none, true, some 4⟩

/-- Arguments that write these options, some with an attached value and some without. -/
def keylessArguments : List String :=
  ["--task=b", "--http-url", "http://h/v1", "--config", "c.yaml", "--isolate-failures", "--model",
    "-", "--task", "a", "--max-concurrency=+4"]

/-- The key of the configuration is not used for the endpoint of the options. -/
theorem options_override_keyless :
    keylessOptions.Admitted ∧
      (∃ given, Written runFlags given keylessArguments ∧ keylessOptions.GivenBy given) ∧
      ∃ base c, RunConfig.load keyedTree "c.yaml" = .ok base ∧
        base.model = .http "u" "m" (some "KEY") ∧ keylessOptions.resolve keyedTree = .ok c ∧
        c.model = .http "http://h/v1" "-" none ∧ c.outputDirectory = base.outputDirectory ∧
        c.tasks = some ["b", "a"] := by
  have admitted : keylessOptions.Admitted := isComplete_iff.mp rfl
  obtain ⟨overrides, gives⟩ := options_override keylessOptions admitted
  have loaded : RunConfig.load keyedTree "c.yaml" = .ok ⟨"tasks", some "out", some ["a"],
      .http "u" "m" (some "KEY"), .abort, none⟩ := eq_ok_of_toOption (by decide +kernel)
  refine ⟨admitted, ?_, ?_⟩
  · have parsed : Command.parse ("run" :: keylessArguments) = .ok (.run keylessOptions) :=
      eq_ok_of_toOption (by decide +kernel)
    obtain ⟨given, written, -, told⟩ := (gives keylessArguments).mp parsed
    exact ⟨given, written, told⟩
  · obtain ⟨c, resolved, changed⟩ := overrides _ _ (.file rfl loaded)
    obtain ⟨name, ⟨⟩, model⟩ := changed.model.1 _ rfl
    exact ⟨_, c, loaded, rfl, resolved, model, changed.outputDirectory.2 rfl,
      changed.tasks.1 (by decide)⟩

end Assay.CommandLine
