import Assay.Proofs.Files.Order
import Assay.Proofs.Files.Patterns
import Assay.Proofs.Files.Places
import Assay.Proofs.FirstFailure
import Assay.Task.Load
import Mathlib.Data.List.Perm.Subperm

/-!
# What loading a task gives

A source file and the answer file of the same name make a program, or one of them has a fault.
Main statement: a task whose description is valid can be loaded just when all its source files make
programs. Then it has these programs, one for each match of its pattern, in path order; otherwise
the failure is the fault of the first source file that has one.
-/

namespace Assay

open Files

namespace Task

variable {tree : Tree} {config : TaskConfig} {answers path name : String} {p : Program}
  {f : Failure}

/-! ## Programs -/

/-- A source file and the answer file of the same name make a program. -/
structure Pairs (tree : Tree) (config : TaskConfig) (answers path : String) (p : Program) :
    Prop where
  named : Path.fileName? path = some p.name
  source : ∃ text, tree.readText path = .ok text ∧ p.source = .file text config.language
  answer : ∃ text, tree.readText (Path.join answers p.name) = .ok text ∧
    Json.ofText text = .ok p.gold
  fits : ∀ shape, config.shape = some shape → shape.check p.gold = .ok ()

/-- Why a source file makes no program: it or its answer cannot be read, or its answer is no JSON or
does not fit the declared shape. The failure names the file at fault. -/
inductive Fault (tree : Tree) (config : TaskConfig) (answers path name : String) : Failure → Prop
  | source {e} (unread : tree.readText path = .error e) :
      Fault tree config answers path name
        ⟨.note ("Failed to read " ++ Text.quotedPath path), [.file e]⟩
  | answer {text e} (read : tree.readText path = .ok text)
      (unread : tree.readText (Path.join answers name) = .error e) :
      Fault tree config answers path name
        ⟨.note ("Failed to read " ++ Text.quotedPath (Path.join answers name)), [.file e]⟩
  | json {text answer message} (read : tree.readText path = .ok text)
      (found : tree.readText (Path.join answers name) = .ok answer)
      (bad : Json.ofText answer = .error message) :
      Fault tree config answers path name
        ⟨.note ("Invalid JSON answer in " ++ Text.quotedPath (Path.join answers name)),
          [.json message]⟩
  | shape {text answer gold shape reason} (read : tree.readText path = .ok text)
      (found : tree.readText (Path.join answers name) = .ok answer)
      (parsed : Json.ofText answer = .ok gold) (declared : config.shape = some shape)
      (departs : shape.check gold = .error reason) :
      Fault tree config answers path name
        ⟨.config (.answerShape (Path.join answers name) shape.spell reason), []⟩

theorem loadProgram_of_named (named : Path.fileName? path = some name) :
    loadProgram tree config answers path =
      fileContext ("Failed to read " ++ Text.quotedPath path) (tree.readText path) >>= fun text =>
        readAnswer tree (Path.join answers name) >>= fun gold =>
          checkAnswer config (Path.join answers name) gold >>= fun _ =>
            .ok ⟨name, gold, .file text config.language⟩ := by
  rw [loadProgram, named]

theorem readAnswer_of_found {text : String} (found : tree.readText path = .ok text) :
    readAnswer tree path = inContext ("Invalid JSON answer in " ++ Text.quotedPath path)
      ((Json.ofText text).mapError fun message => .of (.json message)) := by
  rw [readAnswer, found]
  rfl

theorem checkAnswer_eq_ok_iff {gold : Json} :
    checkAnswer config path gold = .ok () ↔
      ∀ shape, config.shape = some shape → shape.check gold = .ok () := by
  rw [checkAnswer]
  cases config.shape with
  | none => simp
  | some shape => simp [configured, mapError_eq_ok]

theorem loadProgram_of_pairs (h : Pairs tree config answers path p) :
    loadProgram tree config answers path = .ok p := by
  obtain ⟨text, read, source⟩ := h.source
  obtain ⟨answer, found, parsed⟩ := h.answer
  have checked : checkAnswer config (Path.join answers p.name) p.gold = .ok () :=
    checkAnswer_eq_ok_iff.mpr h.fits
  rw [loadProgram_of_named h.named, read, readAnswer_of_found found, parsed]
  change (checkAnswer config (Path.join answers p.name) p.gold >>= fun _ => _) = _
  rw [checked, ← source]
  rfl

theorem loadProgram_of_fault (named : Path.fileName? path = some name)
    (h : Fault tree config answers path name f) :
    loadProgram tree config answers path = .error f := by
  rw [loadProgram_of_named named]
  cases h with
  | source unread =>
    rw [unread]
    rfl
  | answer read unread =>
    rw [read, readAnswer, unread]
    rfl
  | json read found bad =>
    rw [read, readAnswer_of_found found, bad]
    rfl
  | @shape text answer gold shape reason read found parsed declared departs =>
    have misfit : checkAnswer config (Path.join answers name) gold =
        .error ⟨.config (.answerShape (Path.join answers name) shape.spell reason), []⟩ := by
      rw [checkAnswer, declared]
      change configured ((shape.check gold).mapError _) = _
      rw [departs]
      rfl
    rw [read, readAnswer_of_found found, parsed]
    change (checkAnswer config (Path.join answers name) gold >>= fun _ => _) = _
    rw [misfit]
    rfl

/-- A source file makes a program or has a fault. -/
theorem pairs_or_fault (named : Path.fileName? path = some name) :
    (∃ p, Pairs tree config answers path p) ∨ ∃ f, Fault tree config answers path name f := by
  cases read : tree.readText path with
  | error e => exact .inr ⟨_, .source read⟩
  | ok text =>
    cases found : tree.readText (Path.join answers name) with
    | error e => exact .inr ⟨_, .answer read found⟩
    | ok answer =>
      cases parsed : Json.ofText answer with
      | error message => exact .inr ⟨_, .json read found parsed⟩
      | ok gold =>
        by_cases fits : ∀ shape, config.shape = some shape → shape.check gold = .ok ()
        · refine .inl ⟨⟨name, gold, .file text config.language⟩, ?_⟩
          exact ⟨named, ⟨text, read, rfl⟩, ⟨answer, found, parsed⟩, fits⟩
        · obtain ⟨shape, declared, misfit⟩ : ∃ shape, config.shape = some shape ∧
              ¬ shape.check gold = .ok () := by
            simpa using fits
          cases departs : shape.check gold with
          | ok _ => exact absurd departs misfit
          | error reason => exact .inr ⟨_, .shape read found parsed declared departs⟩

theorem loadProgram_eq_ok_iff :
    loadProgram tree config answers path = .ok p ↔ Pairs tree config answers path p := by
  refine ⟨fun loaded => ?_, loadProgram_of_pairs⟩
  cases named : Path.fileName? path with
  | none =>
    rw [loadProgram, named] at loaded
    cases loaded
  | some name =>
    obtain ⟨q, pairs⟩ | ⟨f, fault⟩ : (∃ q, Pairs tree config answers path q) ∨
        ∃ f, Fault tree config answers path name f := pairs_or_fault named
    · have same := (loadProgram_of_pairs pairs).symm.trans loaded
      exact Except.ok.inj same ▸ pairs
    · have both := (loadProgram_of_fault named fault).symm.trans loaded
      cases both

/-! ## Source files -/

variable {directory : String} {found : List String} {programs : List Program}

/-- Whether a path that the pattern of a task matches is a source file of the task: it leads to a
file, and it does not begin with the path of the answers. -/
def isSource (tree : Tree) (config : TaskConfig) (directory path : String) : Bool :=
  tree.isFile path && !Path.startsWith path (Path.join directory config.answerPath)

theorem toList_patternBelow (directory pattern : String) :
    (patternBelow directory pattern).toList =
      Pattern.escape directory.toList ++ '/' :: pattern.toList := by
  simp [patternBelow]

/-- A pattern can be searched for below a directory just when it can be by itself, however the
directory is spelled. -/
theorem search_patternBelow_isOk {pattern : String} :
    (∃ found, tree.search (patternBelow directory pattern) = .ok found) ↔
      ∃ found, tree.search pattern = .ok found := by
  rw [Tree.search_isOk_iff, Tree.search_isOk_iff, toList_patternBelow]
  exact isPattern_below

theorem sourceFiles_of_search
    (searched : tree.search (patternBelow directory config.filePattern) = .ok found) :
    sourceFiles tree config directory =
      .ok (found.filter (isSource tree config directory)) := by
  rw [sourceFiles, matching, searched]
  rfl

theorem loadPrograms_of_search
    (searched : tree.search (patternBelow directory config.filePattern) = .ok found) :
    loadPrograms tree config directory =
      (found.filter (isSource tree config directory)).mapM fun path =>
        inContext ("Could not read file: " ++ Text.quotedPath path)
          (loadProgram tree config (Path.join directory config.answerPath) path) := by
  rw [loadPrograms, sourceFiles_of_search searched]
  rfl

/-- The programs are those that the source files make, one for each match, in path order. -/
theorem loadPrograms_eq_ok_iff
    (searched : tree.search (patternBelow directory config.filePattern) = .ok found) :
    loadPrograms tree config directory = .ok programs ↔
      List.Forall₂ (Pairs tree config (Path.join directory config.answerPath))
        (found.filter (isSource tree config directory)) programs := by
  rw [loadPrograms_of_search searched, mapM_eq_ok_iff]
  simp only [inContext, mapError_eq_ok, loadProgram_eq_ok_iff]

/-- If not all source files make programs, the fault of the first one that does not is the
failure. -/
theorem loadPrograms_eq_error {front back : List String}
    (searched : tree.search (patternBelow directory config.filePattern) = .ok found)
    (split : found.filter (isSource tree config directory) = front ++ path :: back)
    (before : ∀ b ∈ front, ∃ p, Pairs tree config (Path.join directory config.answerPath) b p)
    (named : Path.fileName? path = some name)
    (fault : Fault tree config (Path.join directory config.answerPath) path name f) :
    loadPrograms tree config directory =
      .error (f.within ("Could not read file: " ++ Text.quotedPath path)) := by
  rw [loadPrograms_of_search searched, split]
  refine mapM_eq_error front.length (a := path) (by simp) ?_ ?_
  · rw [loadProgram_of_fault named fault]
    rfl
  · intro i lt b at_
    rw [List.getElem?_append_left lt] at at_
    obtain ⟨p, pairs⟩ := before b (List.mem_of_getElem? at_)
    exact ⟨p, by rw [loadProgram_of_pairs pairs]; rfl⟩

/-! ## Tasks -/

variable {description : Description}

theorem load_of_described
    (described : readDescription tree directory descriptionFiles = .ok description)
    (valid : description.validate = .ok config) (kind : config.kind = .perFile) :
    load tree directory =
      loadPrograms tree config directory >>= fun programs => .ok ⟨config, programs, none⟩ := by
  have task : ofDescription description = .ok ⟨config, [], none⟩ := by
    rw [ofDescription, valid]
    rfl
  simp only [load, described, task, configured, inContext, Except.mapError, bind, Except.bind, kind]

/-- Only tasks of a valid description are loaded. -/
theorem described_of_load {t : Task} (loaded : load tree directory = .ok t) :
    ∃ description, readDescription tree directory descriptionFiles = .ok description ∧
      ∃ config, description.validate = .ok config ∧ config.kind = .perFile := by
  cases described : readDescription tree directory descriptionFiles with
  | error e =>
    rw [load, described] at loaded
    cases loaded
  | ok description =>
    refine ⟨description, rfl, ?_⟩
    cases valid : description.validate with
    | error e =>
      simp only [load, described, ofDescription, valid, configured, inContext, Except.mapError,
        bind, Except.bind] at loaded
      cases loaded
    | ok config =>
      refine ⟨config, rfl, ?_⟩
      cases kind : config.kind with
      | perFile => rfl
      | _ =>
        simp only [load, described, ofDescription, valid, configured, inContext, Except.mapError,
          bind, Except.bind, kind] at loaded
        cases loaded

/-- A task that was loaded has the programs of its source files. -/
theorem pairs_of_load {t : Task} (loaded : load tree directory = .ok t) :
    ∃ found, tree.search (patternBelow directory t.config.filePattern) = .ok found ∧
      List.Forall₂ (Pairs tree t.config (Path.join directory t.config.answerPath))
        (found.filter (isSource tree t.config directory)) t.programs := by
  obtain ⟨description, described, config, valid, kind⟩ := described_of_load loaded
  rw [load_of_described described valid kind] at loaded
  cases outcome : loadPrograms tree config directory with
  | error e => rw [outcome] at loaded; cases loaded
  | ok programs =>
    rw [outcome] at loaded
    obtain rfl := Except.ok.inj loaded
    cases searched : tree.search (patternBelow directory config.filePattern) with
    | error e =>
      rw [loadPrograms, sourceFiles, matching, searched] at outcome
      cases outcome
    | ok found => exact ⟨found, rfl, (loadPrograms_eq_ok_iff searched).mp outcome⟩

/-- **A task is loaded with all its programs, or the first fault is the failure.** The task of a
valid description can be loaded just when every source file makes a program. Then its programs are
those of the source files, one for each match of the pattern, in path order, and every gold answer
fits the declared shape. Otherwise the failure is the fault of the first source file that makes no
program, and it names that file. -/
theorem load_all_or_nothing (standing : tree.Standing)
    (described : readDescription tree directory descriptionFiles = .ok description)
    (valid : description.validate = .ok config) (kind : config.kind = .perFile)
    (pattern : ∃ found, tree.search config.filePattern = .ok found) :
    ∃ found sources, tree.search (patternBelow directory config.filePattern) = .ok found ∧
      InOrder Path.less found ∧ sources = found.filter (isSource tree config directory) ∧
      ((∃ t, load tree directory = .ok t) ↔
        ∀ path ∈ sources,
          ∃ p, Pairs tree config (Path.join directory config.answerPath) path p) ∧
      (∀ t, load tree directory = .ok t →
        t.config = config ∧ t.maxConcurrency = none ∧
          List.Forall₂ (Pairs tree config (Path.join directory config.answerPath)) sources
            t.programs ∧
          ∀ p ∈ t.programs, ∀ shape, t.config.shape = some shape → shape.check p.gold = .ok ()) ∧
      ∀ e, load tree directory = .error e →
        ∃ front path back name f, sources = front ++ path :: back ∧
          (∀ b ∈ front, ∃ p, Pairs tree config (Path.join directory config.answerPath) b p) ∧
          (¬ ∃ p, Pairs tree config (Path.join directory config.answerPath) path p) ∧
          Path.fileName? path = some name ∧
          Fault tree config (Path.join directory config.answerPath) path name f ∧
          e = f.within ("Could not read file: " ++ Text.quotedPath path) := by
  obtain ⟨found, searched⟩ := search_patternBelow_isOk.mpr pattern
  have loads : load tree directory = _ := load_of_described described valid kind
  have succeeds (programs : List Program) : loadPrograms tree config directory = .ok programs ↔ _ :=
    loadPrograms_eq_ok_iff searched
  refine ⟨found, _, searched, ?_, rfl, ?_, ?_, ?_⟩
  · obtain ⟨-, components, -, rfl⟩ := Tree.search_eq_ok_iff.mp searched
    exact Path.inOrder_sort _
  · rw [← exists_forall₂_iff, loads]
    constructor
    · rintro ⟨t, loaded⟩
      cases outcome : loadPrograms tree config directory with
      | error e => rw [outcome] at loaded; cases loaded
      | ok programs => exact ⟨programs, (succeeds programs).mp outcome⟩
    · rintro ⟨programs, each⟩
      rw [(succeeds programs).mpr each]
      exact ⟨_, rfl⟩
  · intro t loaded
    rw [loads] at loaded
    cases outcome : loadPrograms tree config directory with
    | error e => rw [outcome] at loaded; cases loaded
    | ok programs =>
      rw [outcome] at loaded
      obtain rfl := Except.ok.inj loaded
      have each := (succeeds programs).mp outcome
      refine ⟨rfl, rfl, each, ?_⟩
      intro p mem
      obtain ⟨path, -, pairs⟩ := exists_of_mem_results each mem
      exact pairs.fits
  · intro e failed
    have some : ¬ ∀ path ∈ found.filter (isSource tree config directory),
        ∃ p, Pairs tree config (Path.join directory config.answerPath) path p := by
      intro all
      obtain ⟨programs, each⟩ := exists_forall₂_iff.mpr all
      rw [loads, (succeeds programs).mpr each] at failed
      cases failed
    obtain ⟨front, path, back, split, before, lacks⟩ := exists_first some
    have source : isSource tree config directory path = true := by
      refine (List.mem_filter.mp (?_ : path ∈ found.filter _)).2
      rw [split]
      simp
    obtain ⟨name, named⟩ := Tree.exists_fileName standing (Bool.and_eq_true_iff.mp source).1
    obtain ⟨f, fault⟩ := (pairs_or_fault named).resolve_left lacks
    refine ⟨front, path, back, name, f, split, before, lacks, named, fault, ?_⟩
    rw [loads, loadPrograms_eq_error searched split before named fault] at failed
    exact (Except.error.inj failed).symm

/-- A tree with one task in the directory `t`, in which other files lie. -/
def taskTree (filePattern : String) (files : List (Place × Entry)) : Tree where
  here := []
  entries := (["t"], .directory) :: (["t", "answers"], .directory) ::
    (["t", "metadata.json"], .file (.text
      ("\x7b\"name\": \"alias\", \"task_type\": \"PER_FILE\", " ++
      "\"language\": \"C\", \"output_type\": \"List[str]\", \"file_pattern\": \"" ++
      filePattern ++ "\"\x7d"))) :: files

/-- The description of that task. -/
def taskDescription (filePattern : String) : Description where
  name := "alias"
  description := ""
  taskType := "PER_FILE"
  tags := []
  language := "C"
  authors := ""
  metric := none
  outputType := some "List[str]"
  filePattern := filePattern
  answerPath := "answers"

/-- The meaning of that description. -/
def taskConfig (filePattern : String) : TaskConfig where
  name := "alias"
  description := ""
  kind := .perFile
  tags := []
  language := .c
  authors := ""
  metric := .prf1
  shape := some (.list (some .str))
  filePattern := filePattern
  answerPath := "answers"

theorem standing_taskTree (filePattern : String) (files : List (Place × Entry)) :
    (taskTree filePattern files).Standing := by
  intro count
  rw [taskTree, List.take_nil]
  rfl

/-- Two source files with their answers. -/
def answeredTree : Tree :=
  taskTree "*.c" [(["t", "b.c"], .file (.text "int b;")), (["t", "a.c"], .file (.text "int a;")),
    (["t", "answers", "a.c"], .file (.text "[\"x\"]")),
    (["t", "answers", "b.c"], .file (.text "[]"))]

/-- The two source files make the two programs of the task. -/
theorem load_all_or_nothing_answered :
    ∃ t, load answeredTree "t" = .ok t ∧
      List.Forall₂ (Pairs answeredTree (taskConfig "*.c") "t/answers") ["t/a.c", "t/b.c"]
        t.programs := by
  have described :
      readDescription answeredTree "t" descriptionFiles = .ok (taskDescription "*.c") :=
    eq_ok_of_toOption (by decide +kernel)
  have valid : (taskDescription "*.c").validate = .ok (taskConfig "*.c") :=
    eq_ok_of_toOption (by decide +kernel)
  have pattern : answeredTree.search "*.c" = .ok [] := eq_ok_of_toOption (by decide +kernel)
  have below : answeredTree.search (patternBelow "t" "*.c") = .ok ["t/a.c", "t/b.c"] :=
    eq_ok_of_toOption (by decide +kernel)
  have standing : answeredTree.Standing := standing_taskTree _ _
  obtain ⟨found, sources, searched, -, rfl, -, loads, -⟩ :=
    load_all_or_nothing standing described valid rfl ⟨_, pattern⟩
  obtain rfl := Except.ok.inj (below.symm.trans searched)
  have both : ["t/a.c", "t/b.c"].filter (isSource answeredTree (taskConfig "*.c") "t") =
      ["t/a.c", "t/b.c"] := by
    decide +kernel
  have some : (load answeredTree "t").toOption.isSome = true := by decide +kernel
  cases loaded : load answeredTree "t" with
  | error e => rw [loaded] at some; cases some
  | ok t =>
    obtain ⟨-, -, each, -⟩ := loads t loaded
    rw [both] at each
    exact ⟨t, rfl, each⟩

/-- A source file that the pattern matches in two ways: the first or the second of the directories
is the one that the pattern names. -/
def twiceMatchedTree : Tree :=
  taskTree "**/a/**/x.c" [(["t", "a"], .directory), (["t", "a", "a"], .directory),
    (["t", "a", "a", "x.c"], .file (.text "int x;")),
    (["t", "answers", "x.c"], .file (.text "[\"x\"]"))]

/-- A source file that the pattern matches in two ways makes two programs, so the programs need not
be those of the source files, one each. -/
theorem load_twice_matched :
    ¬ ∀ t, load twiceMatchedTree "t" = .ok t →
      ∃ sources : List String, sources.Nodup ∧
        (∀ path, path ∈ sources ↔
          (∃ found, twiceMatchedTree.search (patternBelow "t" t.config.filePattern) = .ok found ∧
            path ∈ found) ∧ isSource twiceMatchedTree t.config "t" path = true) ∧
        List.Forall₂ (Pairs twiceMatchedTree t.config (Path.join "t" t.config.answerPath)) sources
          t.programs := by
  intro claim
  have two : ((load twiceMatchedTree "t").map fun t => (t.config, t.programs.length)).toOption =
      some (taskConfig "**/a/**/x.c", 2) := by
    decide +kernel
  have below : twiceMatchedTree.search (patternBelow "t" "**/a/**/x.c") =
      .ok ["t/a/a/x.c", "t/a/a/x.c"] :=
    eq_ok_of_toOption (by decide +kernel)
  cases loaded : load twiceMatchedTree "t" with
  | error e => rw [loaded] at two; cases two
  | ok t =>
    rw [loaded] at two
    obtain ⟨config, programs⟩ := Prod.mk.inj (Option.some.inj two)
    obtain ⟨sources, nodup, mem, each⟩ := claim t loaded
    have single : sources ⊆ ["t/a/a/x.c"] := by
      intro path source
      obtain ⟨⟨found, searched, matched⟩, -⟩ := (mem path).mp source
      rw [config] at searched
      obtain rfl := Except.ok.inj (below.symm.trans searched)
      simpa using matched
    have one := (List.subperm_of_subset nodup single).length_le
    rw [each.length_eq, programs] at one
    exact absurd one (by decide)

end Task

end Assay
