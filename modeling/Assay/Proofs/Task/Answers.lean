import Assay.Proofs.Files.Searching
import Assay.Proofs.Task.Loading

/-!
# Answers are not put to a model

The source files of a task are told from its answers by the spelling of their paths. Main statement:
if the directory, the path of the answers and the pattern are spelled without dots, no source file
lies in the directory of the answers. Spelled otherwise, an answer can become a program.
-/

namespace Assay.Task

open Files

variable {tree : Tree} {config : TaskConfig} {directory pattern path : String}

/-- The paths of a task are spelled without dots and begin at the same place, and no component of
the pattern stands for two dots. -/
structure PlainlySpelled (config : TaskConfig) (directory : String) : Prop where
  nonempty : directory ≠ ""
  plain : Path.IsPlain directory
  answers : Path.IsPlain (Path.join directory config.answerPath)
  origin : Path.isAbsolute (Path.join directory config.answerPath) = Path.isAbsolute directory
  pattern : ∀ part ∈ config.filePattern.toList.splitOn '/',
    ∀ p, Pattern.Reads none part p → ¬ p.Climbs

/-- Below a directory that is spelled without dots no more components climb. -/
theorem level_patternBelow (plain : Path.IsPlain directory)
    (level : ∀ part ∈ pattern.toList.splitOn '/', ∀ p, Pattern.Reads none part p → ¬ p.Climbs) :
    ∀ part ∈ (patternBelow directory pattern).toList.splitOn '/',
      ∀ p, Pattern.Reads none part p → ¬ p.Climbs := by
  rw [toList_patternBelow, List.splitOn_append_cons_self, Pattern.splitOn_escape]
  intro part mem p reads climbs
  rcases List.mem_append.mp mem with mem | mem
  · obtain ⟨text, there, rfl⟩ := List.mem_map.mp mem
    rw [← List.append_nil (Pattern.escape text)] at reads
    obtain ⟨after, q, rfl, rest⟩ := Pattern.reads_of_escape reads
    cases rest
    rw [List.append_nil] at climbs
    have dots : ".." ∈ Path.parts directory :=
      List.mem_map.mpr ⟨text, there, by rw [Pattern.climbs_quote climbs]⟩
    exact (plain _ (Path.up_mem_components dots)).2 rfl
  · exact level part mem p reads climbs

theorem isAbsolute_patternBelow (nonempty : directory ≠ "") (pattern : String) :
    Path.isAbsolute (patternBelow directory pattern) = Path.isAbsolute directory := by
  obtain ⟨c, cs, chars⟩ : ∃ c cs, directory.toList = c :: cs := by
    apply List.exists_cons_of_ne_nil
    simpa using nonempty
  rw [Path.isAbsolute, Path.isAbsolute, toList_patternBelow, chars, Pattern.escape_cons]
  by_cases special : Pattern.IsSpecial c
  · have slash : c ≠ '/' := by
      rintro rfl
      revert special
      decide
    rw [if_pos special]
    simp [slash]
  · rw [if_neg special]
    rfl

/-- A source file of a task that is spelled without dots is spelled without dots itself. -/
theorem isPlain_of_isSource (named : tree.Named) (spelled : PlainlySpelled config directory)
    {found : List String}
    (searched : tree.search (patternBelow directory config.filePattern) = .ok found)
    (mem : path ∈ found) (file : tree.isFile path = true) :
    Path.IsPlain path ∧ Path.isAbsolute path = Path.isAbsolute directory := by
  have clear := Tree.isClear_of_search named
    (level_patternBelow spelled.plain spelled.pattern) searched mem
  rw [isAbsolute_patternBelow spelled.nonempty] at clear
  exact ⟨clear.spelled.resolve_left (Tree.components_ne_here file), clear.origin⟩

/-- **No answer becomes a program of a task that is spelled without dots.** The programs of a task
that was loaded are made from source files, none of which lies in the directory of the answers. -/
theorem sources_avoid_answers {t : Task} (named : tree.Named)
    (loaded : load tree directory = .ok t) (spelled : PlainlySpelled t.config directory) :
    ∃ sources : List String,
      List.Forall₂ (Pairs tree t.config (Path.join directory t.config.answerPath)) sources
        t.programs ∧
      ∀ path ∈ sources, ∀ outer,
        tree.resolve (Path.join directory t.config.answerPath) = .ok outer →
          ∃ place, tree.resolve path = .ok place ∧ ¬ outer <+: place := by
  obtain ⟨found, searched, each⟩ := pairs_of_load loaded
  refine ⟨_, each, ?_⟩
  intro path mem outer answers
  obtain ⟨matched, source⟩ := List.mem_filter.mp mem
  obtain ⟨file, apart⟩ := Bool.and_eq_true_iff.mp source
  obtain ⟨plain, origin⟩ := isPlain_of_isSource named spelled searched matched file
  obtain ⟨place, -, resolved, -⟩ := Tree.isFile_iff.mp file
  refine ⟨place, resolved, ?_⟩
  intro inside
  have begins := Tree.startsWith_of_prefix plain spelled.answers (origin.trans spelled.origin.symm)
    resolved answers inside
  rw [begins] at apart
  cases apart

/-- A task whose pattern matches the answers as well as the source file. -/
def answersMatchedTree : Tree :=
  taskTree "**/*.c" [(["t", "a.c"], .file (.text "int a;")),
    (["t", "answers", "a.c"], .file (.text "[\"x\"]"))]

/-- Without dots the answer of that task is no source file. -/
theorem sources_avoid_answers_matched :
    ∃ t, load answersMatchedTree "t" = .ok t ∧
      ∃ sources : List String,
        List.Forall₂ (Pairs answersMatchedTree t.config "t/answers") sources t.programs ∧
        ∀ path ∈ sources, ∃ place, answersMatchedTree.resolve path = .ok place ∧
          ¬ ["t", "answers"] <+: place := by
  have configured : ((load answersMatchedTree "t").map Task.config).toOption =
      some (taskConfig "**/*.c") := by
    decide +kernel
  cases loaded : load answersMatchedTree "t" with
  | error e => rw [loaded] at configured; cases configured
  | ok t =>
    rw [loaded] at configured
    have config : t.config = taskConfig "**/*.c" := Option.some.inj configured
    have named : answersMatchedTree.Named := by
      unfold Tree.Named
      decide +kernel
    have spelled : PlainlySpelled t.config "t" := by
      rw [config]
      refine ⟨by decide, ?_, ?_, by decide, ?_⟩
      · unfold Path.IsPlain
        decide
      · unfold Path.IsPlain
        decide
      · have noDot : ∀ part ∈ "**/*.c".toList.splitOn '/', part.head? ≠ some '.' := by decide
        intro part mem p reads climbs
        exact noDot part mem (reads.begins_of_climbs climbs)
    have answers : Path.join "t" t.config.answerPath = "t/answers" := by
      rw [config]
      decide
    obtain ⟨sources, each, apart⟩ := sources_avoid_answers named loaded spelled
    rw [answers] at each apart
    refine ⟨t, rfl, sources, each, ?_⟩
    intro path mem
    exact apart path mem _ (eq_ok_of_toOption (by decide +kernel))

/-- When the directory is spelled with a dot, the answer of that task becomes a program. -/
theorem load_answer_as_program :
    ¬ ∀ t, load answersMatchedTree "./t" = .ok t →
      ∃ sources : List String,
        List.Forall₂ (Pairs answersMatchedTree t.config (Path.join "./t" t.config.answerPath))
          sources t.programs ∧
        ∀ path ∈ sources, ∀ outer,
          answersMatchedTree.resolve (Path.join "./t" t.config.answerPath) = .ok outer →
            ∃ place, answersMatchedTree.resolve path = .ok place ∧ ¬ outer <+: place := by
  intro claim
  have made : ((load answersMatchedTree "./t").map
      fun t => (t.config, t.programs.map Program.source)).toOption =
        some (taskConfig "**/*.c", [.file "int a;" .c, .file "[\"x\"]" .c]) := by
    decide +kernel
  cases loaded : load answersMatchedTree "./t" with
  | error e => rw [loaded] at made; cases made
  | ok t =>
    rw [loaded] at made
    obtain ⟨config, programs⟩ := Prod.mk.inj (Option.some.inj made)
    obtain ⟨sources, each, apart⟩ := claim t loaded
    obtain ⟨p, mem, source⟩ : ∃ p ∈ t.programs, p.source = .file "[\"x\"]" .c := by
      refine List.mem_map.mp ?_
      rw [programs]
      simp
    obtain ⟨path, there, pairs⟩ := exists_of_mem_results each mem
    obtain ⟨text, read, same⟩ := pairs.source
    obtain ⟨rfl, -⟩ : text = "[\"x\"]" ∧ _ := by simpa [source, eq_comm] using same
    obtain ⟨place, resolved, found⟩ := Tree.readText_eq_ok_iff.mp read
    have answers : answersMatchedTree.resolve (Path.join "./t" t.config.answerPath) =
        .ok ["t", "answers"] := by
      rw [config]
      exact eq_ok_of_toOption (by decide +kernel)
    obtain ⟨place', resolved', outside⟩ := apart path there _ answers
    obtain rfl := Except.ok.inj (resolved.symm.trans resolved')
    -- the answer stands in the directory of the answers only
    have only : ∀ e ∈ answersMatchedTree.entries, e.2 = .file (.text "[\"x\"]") →
        ["t", "answers"] <+: e.1 := by
      decide +kernel
    exact outside (only _ (Tree.mem_entries_of_look found) rfl)

end Assay.Task
