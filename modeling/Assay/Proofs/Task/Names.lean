import Assay.Proofs.Files.OneDirectory
import Assay.Proofs.Task.Audit
import Assay.Proofs.Task.Loading

/-!
# Names of programs

A program has the name that the path of its source file ends in, and its gold answer is the file of
this name. Main statement: if the pattern of a task searches one directory, then its programs have
pairwise different names, so no two of them have the same gold answer file, and each line of a log
belongs to one source file. A pattern that searches several directories can find files of one name
in them, and these make programs that share a gold answer.
-/

namespace Assay.Task

open Files

variable {tree : Tree} {config : TaskConfig} {directory answers : String}
  {sources : List String} {programs : List Program}

/-- The programs of source files are named after them. -/
theorem fileNames_of_pairs (each : List.Forall₂ (Pairs tree config answers) sources programs) :
    sources.map Path.fileName? = programs.map fun p => some p.name :=
  map_eq_of_forall₂ (fun _ _ pairs => pairs.named) each

theorem names_of_pairs (each : List.Forall₂ (Pairs tree config answers) sources programs) :
    programs.map Program.name = sources.filterMap Path.fileName? := by
  have all : (sources.map Path.fileName?).filterMap id =
      (programs.map fun p => some p.name).filterMap id := by
    rw [fileNames_of_pairs each]
  rw [List.filterMap_map, List.filterMap_map] at all
  exact (List.filterMap_eq_map ▸ all).symm

/-- Programs of different names have different gold answer files. -/
theorem resolve_ne_of_pairs {path path' : String} {p q : Program}
    (pairs : Pairs tree config answers path p) (pairs' : Pairs tree config answers path' q)
    (differ : p.name ≠ q.name) :
    tree.resolve (Path.join answers p.name) ≠ tree.resolve (Path.join answers q.name) := by
  obtain ⟨text, read, -⟩ := pairs.answer
  obtain ⟨text', read', -⟩ := pairs'.answer
  obtain ⟨place, resolved, -⟩ := Tree.readText_eq_ok_iff.mp read
  obtain ⟨place', resolved', -⟩ := Tree.readText_eq_ok_iff.mp read'
  obtain ⟨outer, rfl⟩ :=
    Tree.exists_of_resolve_join (Path.proper_of_fileName pairs.named) resolved
  obtain ⟨outer', rfl⟩ :=
    Tree.exists_of_resolve_join (Path.proper_of_fileName pairs'.named) resolved'
  rw [resolved, resolved']
  intro same
  have ends := congrArg List.getLast? (Except.ok.inj same)
  rw [List.getLast?_concat, List.getLast?_concat] at ends
  exact differ (Option.some.inj ends)

/-- Each line of a log has the name of the program that it is about. -/
theorem Attempted.map_program {t : Task} {reply : Nat → Call → Reply} {Tells : Nat → Prop}
    {attempts : List Attempt} (h : t.Attempted reply Tells attempts) :
    (attempts.map Attempt.trace).map Trace.program = t.programs.map Program.name := by
  rw [List.map_map]
  refine (map_eq_of_forall₂ ?_ h.forall₂).symm
  rintro p ⟨trace, outcome, events⟩ ⟨model, logs⟩
  cases logs with
  | output _ => rfl
  | error _ => rfl

/-- The source files of a task whose pattern searches one directory have pairwise different
names. -/
theorem nodup_fileNames_sources (named : tree.Named) (distinct : tree.Distinct)
    (standing : tree.Standing) (one : SearchesOneDirectory config.filePattern.toList)
    (listed : sourceFiles tree config directory = .ok sources) :
    (sources.filterMap Path.fileName?).Nodup := by
  cases searched : tree.search (patternBelow directory config.filePattern) with
  | error e =>
    rw [sourceFiles, matching, searched] at listed
    cases listed
  | ok found =>
    rw [sourceFiles_of_search searched] at listed
    obtain rfl := Except.ok.inj listed
    have below : SearchesOneDirectory (patternBelow directory config.filePattern).toList := by
      rw [toList_patternBelow]
      exact searchesOneDirectory_below one directory.toList
    have all := Tree.nodup_fileNames_of_search named distinct standing below searched
    have files : (found.filter (isSource tree config directory)).Sublist
        (found.filter tree.isFile) := by
      apply List.monotone_filter_right
      intro path source
      exact (Bool.and_eq_true_iff.mp source).1
    exact (files.filterMap Path.fileName?).nodup all

/-- **Names tell the programs of a task apart.** Let the pattern of a task that was loaded search
one directory. Then its programs, each of which is named after its source file, have pairwise
different names, no two of them have the same gold answer file, and each line of a log belongs to
one source file. The tree has one entry for each place. -/
theorem names_tell_programs_apart {t : Task} (named : tree.Named) (distinct : tree.Distinct)
    (standing : tree.Standing) (loaded : load tree directory = .ok t)
    (one : SearchesOneDirectory t.config.filePattern.toList) :
    ∃ sources, sourceFiles tree t.config directory = .ok sources ∧
      List.Forall₂ (Pairs tree t.config (Path.join directory t.config.answerPath)) sources
        t.programs ∧
      (t.programs.map Program.name).Nodup ∧
      (t.programs.Pairwise fun p q =>
        tree.resolve (Path.join (Path.join directory t.config.answerPath) p.name) ≠
          tree.resolve (Path.join (Path.join directory t.config.answerPath) q.name)) ∧
      ∀ reply Tells attempts, t.Attempted reply Tells attempts →
        ∀ trace ∈ attempts.map Attempt.trace,
          ∃! path, path ∈ sources ∧ Path.fileName? path = some trace.program := by
  obtain ⟨found, searched, each⟩ := pairs_of_load loaded
  have listed := sourceFiles_of_search searched
  have nodup : (t.programs.map Program.name).Nodup := by
    rw [names_of_pairs each]
    exact nodup_fileNames_sources named distinct standing one listed
  refine ⟨_, listed, each, nodup, ?_, ?_⟩
  · refine List.Pairwise.imp_of_mem ?_ (List.pairwise_map.mp nodup)
    intro p q mem mem' differ
    obtain ⟨path, -, pairs⟩ := exists_of_mem_results each mem
    obtain ⟨path', -, pairs'⟩ := exists_of_mem_results each mem'
    exact resolve_ne_of_pairs pairs pairs' differ
  · intro reply Tells attempts attempted trace mem
    have logged : trace.program ∈ t.programs.map Program.name := by
      rw [← attempted.map_program]
      exact List.mem_map_of_mem mem
    rw [names_of_pairs each] at logged
    obtain ⟨path, source, ends⟩ := List.mem_filterMap.mp logged
    -- another source file of this name would make a second program of it
    refine ⟨path, ⟨source, ends⟩, ?_⟩
    rintro other ⟨source', ends'⟩
    have apart : (List.map Path.fileName?
        (found.filter (isSource tree t.config directory))).Nodup := by
      rw [fileNames_of_pairs each]
      have names := nodup.map (Option.some_injective String)
      rwa [List.map_map] at names
    exact List.inj_on_of_nodup_map apart source' source (ends'.trans ends.symm)

/-- Two source files in the directory that the pattern names, and one of the name of the first
beside it. -/
def besideTree : Tree :=
  taskTree "src/*.c" [(["t", "src"], .directory), (["t", "lib"], .directory),
    (["t", "src", "b.c"], .file (.text "int b;")), (["t", "src", "a.c"], .file (.text "int a;")),
    (["t", "lib", "a.c"], .file (.text "int c;")),
    (["t", "answers", "a.c"], .file (.text "[\"x\"]")),
    (["t", "answers", "b.c"], .file (.text "[]"))]

/-- The two source files are told apart by their names. -/
theorem names_tell_programs_apart_beside :
    ∃ t, load besideTree "t" = .ok t ∧
      List.Forall₂ (Pairs besideTree t.config "t/answers") ["t/src/a.c", "t/src/b.c"]
        t.programs ∧
      (t.programs.map Program.name).Nodup := by
  have configured : ((load besideTree "t").map Task.config).toOption =
      some (taskConfig "src/*.c") := by
    decide +kernel
  cases loaded : load besideTree "t" with
  | error e => rw [loaded] at configured; cases configured
  | ok t =>
    rw [loaded] at configured
    have config : t.config = taskConfig "src/*.c" := Option.some.inj configured
    have named : besideTree.Named := by
      unfold Tree.Named
      decide +kernel
    have distinct : besideTree.Distinct := by
      unfold Tree.Distinct
      decide +kernel
    have one : SearchesOneDirectory t.config.filePattern.toList := by
      rw [config]
      have front : ("src/*.c".toList.splitOn '/').dropLast = ["src".toList] := by decide
      show ∀ part ∈ ("src/*.c".toList.splitOn '/').dropLast, _
      rw [front]
      intro part mem p reads
      obtain rfl := List.mem_singleton.mp mem
      refine Pattern.singleName_of_plain ?_ reads
      simp [Pattern.IsSpecial]
    obtain ⟨sources, listed, each, nodup, -⟩ :=
      names_tell_programs_apart named distinct (standing_taskTree _ _) loaded one
    have both : sourceFiles besideTree (taskConfig "src/*.c") "t" =
        .ok ["t/src/a.c", "t/src/b.c"] :=
      eq_ok_of_toOption (by decide +kernel)
    rw [config] at listed
    obtain rfl := Except.ok.inj (both.symm.trans listed)
    have answers : Path.join "t" t.config.answerPath = "t/answers" := by
      rw [config]
      decide
    rw [answers] at each
    exact ⟨t, rfl, each, nodup⟩

/-- Two source files of one name in two directories that the pattern searches. -/
def sameNamesTree : Tree :=
  taskTree "**/*.c" [(["t", "a"], .directory), (["t", "answers", "a"], .directory),
    (["t", "x.c"], .file (.text "int x;")), (["t", "a", "x.c"], .file (.text "int y;")),
    (["t", "answers", "x.c"], .file (.text "[\"x\"]")),
    (["t", "answers", "a", "x.c"], .file (.text "[\"y\"]"))]

/-- When a pattern searches two directories, two source files of one name make two programs of this
name, which share a gold answer. -/
theorem load_same_names :
    ¬ ∀ t, load sameNamesTree "t" = .ok t → (t.programs.map Program.name).Nodup := by
  intro claim
  have two : ((load sameNamesTree "t").map fun t => t.programs.map Program.name).toOption =
      some ["x.c", "x.c"] := by
    decide +kernel
  cases loaded : load sameNamesTree "t" with
  | error e => rw [loaded] at two; cases two
  | ok t =>
    rw [loaded] at two
    have names : t.programs.map Program.name = ["x.c", "x.c"] := Option.some.inj two
    have nodup := claim t loaded
    rw [names] at nodup
    revert nodup
    decide

end Assay.Task
