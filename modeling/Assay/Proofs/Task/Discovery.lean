import Assay.Proofs.Files.Escaped
import Assay.Proofs.Task.Answers

/-!
# Which directories are tasks

The tasks below a base directory are searched for by a pattern that begins with the escaped base.
Main statement: the directories that are found are the direct subdirectories of the base that hold a
description, each once and in ascending order; the description of each is read from the first file
that is there; and loading gives the tasks of all of them, or the failure of the first one that has
one. A base that begins at the empty path after a dot, such as a dot and a slash, is not found.
-/

namespace Assay.Task

open Files

variable {tree : Tree} {base name file path found : String} {place : Place}

/-! ## The way to a base -/

/-- The parts of a base that a search follows. -/
def steps (base : String) : List String :=
  if Path.isAbsolute base then (Path.parts base).tail else Path.parts base

/-- The path under which a search comes to a base. -/
def trail (base : String) : String :=
  (steps base).foldl Tree.below (Tree.searchStart base)

/-- The path of a name in a base, as a search spells it. -/
def taskPath (base name : String) : String :=
  Tree.below (trail base) name

/-- A base is spelled so that a search does not leave the dot at which it begins for the empty path:
it is absolute, or the first of its parts that is no dot is not empty. -/
def SteadilySpelled (base : String) : Prop :=
  Path.isAbsolute base = true ∨ ((Path.parts base).dropWhile (· = ".")).head? ≠ some ""

/-- The slash that an absolute base begins with is no part that is followed. -/
theorem steps_of_isAbsolute (absolute : Path.isAbsolute base = true) :
    ∃ rest, base.toList = '/' :: rest ∧ steps base = (rest.splitOn '/').map String.ofList ∧
      Path.parts base = "" :: steps base := by
  obtain ⟨rest, chars⟩ := Path.exists_of_isAbsolute absolute
  have all : Path.parts base = "" :: (rest.splitOn '/').map String.ofList := by
    rw [Path.parts, chars, List.splitOn_cons_eq_if_modifyHead, if_pos (by rfl)]
    rfl
  refine ⟨rest, chars, ?_, ?_⟩ <;> simp [steps, absolute, all]

theorem noSlash_of_mem_steps : ∀ part ∈ steps base, '/' ∉ part.toList := by
  intro part mem
  rw [steps] at mem
  split at mem
  · exact Path.noSlash_of_mem_parts (List.mem_of_mem_tail mem)
  · exact Path.noSlash_of_mem_parts mem

/-- A search begins where the base begins. -/
theorem at_start (sound : tree.Sound) (base : String) :
    tree.At (Tree.searchStart base) (tree.origin base) := by
  rw [Tree.searchStart, Tree.origin]
  split
  · exact Tree.at_root tree
  · exact Tree.at_here sound.standing

theorem walk_steps (tree : Tree) (base : String) :
    tree.walk (tree.origin base) (steps base) = tree.walk (tree.origin base) (Path.parts base) := by
  by_cases absolute : Path.isAbsolute base = true
  · obtain ⟨-, -, -, all⟩ := steps_of_isAbsolute absolute
    rw [all, Tree.origin, if_pos absolute, Tree.walk]
    rfl
  · rw [steps, if_neg absolute]

theorem steady_steps_iff :
    Tree.Steady (Tree.searchStart base) (steps base) ↔ SteadilySpelled base := by
  rw [Tree.Steady, Tree.searchStart, steps, SteadilySpelled]
  by_cases absolute : Path.isAbsolute base = true <;> simp [absolute]

/-- A search for a directory comes to the place that the base leads to. -/
theorem at_trail (sound : tree.Sound) (nonempty : base ≠ "") (steady : SteadilySpelled base)
    (leads : tree.destination base = .ok place) (directory : tree.look place = some .directory) :
    tree.At (trail base) place := by
  apply (at_start sound base).followAll noSlash_of_mem_steps (steady_steps_iff.mpr steady)
  rw [walk_steps]
  exact Tree.walk_parts_of_destination nonempty leads directory

/-! ## Searching below a base -/

/-- The parts of the pattern for files of one name in the directories below a base. -/
theorem patternParts_below (text : List Char) (plain : Tree.IsFileName file) :
    Tree.patternParts (Pattern.escape text ++ '/' :: '*' :: '/' :: file.toList) =
      (text.splitOn '/').map Pattern.escape ++ [['*'], file.toList] := by
  have last : ('*' :: '/' :: file.toList).splitOn '/' = [['*'], file.toList] := by
    have star : (['*'] : List Char).splitOn '/' = [['*']] := by decide
    show (['*'] ++ '/' :: file.toList).splitOn '/' = _
    rw [List.splitOn_append_cons_self, star, List.splitOn_eq_singleton plain.noSlash]
    rfl
  rw [Tree.patternParts, List.splitOn_append_cons_self, Pattern.splitOn_escape, last,
    if_neg (by simpa using plain.toList_ne_nil)]

theorem toList_files (base file : String) :
    (patternBelow base ("*/" ++ file)).toList =
      Pattern.escape base.toList ++ '/' :: '*' :: '/' :: file.toList := by
  simp [toList_patternBelow]

theorem searchParts_below (nonempty : base ≠ "") (plain : Tree.IsFileName file) :
    Tree.searchParts (patternBelow base ("*/" ++ file)) =
      (steps base).map (fun part => Pattern.escape part.toList) ++ [['*'], file.toList] := by
  rw [Tree.searchParts, isAbsolute_patternBelow nonempty, toList_files]
  by_cases absolute : Path.isAbsolute base = true
  · obtain ⟨rest, chars, all, -⟩ := steps_of_isAbsolute absolute
    have slash : ¬ Pattern.IsSpecial '/' := by decide
    rw [if_pos absolute, chars, Pattern.escape_cons, if_neg slash, all, List.map_map]
    show Tree.patternParts (Pattern.escape rest ++ _) = _
    rw [patternParts_below rest plain]
    simp [Function.comp_def]
  · rw [if_neg absolute, patternParts_below _ plain, steps, if_neg absolute, Path.parts,
      List.map_map]
    simp [Function.comp_def]

/-- The patterns of files of one name in the directories below a base. -/
def patternsBelow (base file : String) : List Pattern :=
  Tree.quotes (steps base) ++ [Tree.anyName, Pattern.quote file.toList]

/-- The files of one name in the directories below a base. -/
def filesBelow (tree : Tree) (base file : String) : List String :=
  Path.sort (tree.expand false (patternsBelow base file) (Tree.searchStart base))

/-- The pattern does not end in a slash, so it is not one for directories only. -/
theorem getLast?_files (base : String) (plain : Tree.IsFileName file) :
    (patternBelow base ("*/" ++ file)).toList.getLast? ≠ some '/' := by
  obtain ⟨init, last, chars⟩ :=
    (List.eq_nil_or_concat' file.toList).resolve_left plain.toList_ne_nil
  have all : (patternBelow base ("*/" ++ file)).toList =
      (Pattern.escape base.toList ++ '/' :: '*' :: '/' :: init) ++ [last] := by
    rw [toList_files, chars]
    simp
  rw [all, List.getLast?_concat]
  intro slash
  apply plain.noSlash
  rw [chars, Option.some.inj slash]
  simp

theorem reads_patternsBelow (nonempty : base ≠ "") (plain : Tree.IsFileName file) :
    List.Forall₂ (Pattern.Reads none) (Tree.searchParts (patternBelow base ("*/" ++ file)))
      (patternsBelow base file) := by
  have star : Pattern.Reads none ['*'] Tree.anyName := .sequence (by simp) .done
  rw [searchParts_below nonempty plain, patternsBelow, Tree.quotes]
  apply List.rel_append
  · rw [List.forall₂_map_left_iff, List.forall₂_map_right_iff, List.forall₂_same]
    intro part _
    exact Pattern.reads_escape_self part.toList
  · exact .cons star (.cons plain.reads .nil)

theorem collapse_patternsBelow (base file : String) :
    Tree.collapse (patternsBelow base file) = patternsBelow base file := by
  apply Tree.collapse_eq_self
  intro p front
  rcases List.mem_append.mp (List.dropLast_subset _ front) with mem | mem
  · obtain ⟨part, -, rfl⟩ := List.mem_map.mp mem
    exact Pattern.isRecursive_quote part.toList
  · rcases List.mem_cons.mp mem with rfl | mem
    · rfl
    · rw [List.mem_singleton.mp mem]
      exact Pattern.isRecursive_quote file.toList

/-- The pattern of a base and a file name finds what the escaped parts lead to. -/
theorem search_below (nonempty : base ≠ "") (plain : Tree.IsFileName file) :
    tree.search (patternBelow base ("*/" ++ file)) = .ok (filesBelow tree base file) := by
  have whole : ∃ p, Pattern.Reads none (patternBelow base ("*/" ++ file)).toList p := by
    have slash (before : Option Char) :
        Pattern.Reads before ('/' :: '*' :: '/' :: file.toList) _ :=
      .literal (by decide) (.sequence (by simp)
        (.literal (by decide) (plain.reads.edge (.inr rfl))))
    rw [toList_files]
    exact ⟨_, Pattern.reads_escape slash⟩
  have start : Tree.searchStart (patternBelow base ("*/" ++ file)) = Tree.searchStart base := by
    rw [Tree.searchStart, Tree.searchStart, isAbsolute_patternBelow nonempty]
  apply Tree.search_eq_ok_iff.mpr
  refine ⟨whole, _, reads_patternsBelow nonempty plain, ?_⟩
  rw [collapse_patternsBelow, start, beq_eq_false_iff_ne.mpr (getLast?_files base plain),
    filesBelow]

/-- A directory in a base holds a file, whose path can be looked up. -/
structure Holds (tree : Tree) (base : String) (place : Place) (name file : String) : Prop where
  directory : tree.look (place ++ [name]) = some .directory
  present : (tree.look (place ++ [name, file])).isSome = true
  fits : Tree.pathFault? (Path.join (taskPath base name) file) = none

theorem below_taskPath (named : '/' ∉ name.toList ∧ Path.isSolid name = true ∧ name ≠ "..")
    (base file : String) :
    Tree.below (taskPath base name) file = Path.join (taskPath base name) file := by
  apply Tree.below_of_ne_here
  rw [taskPath, (Tree.components_below_name _ named.1 named.2.1 named.2.2).1]
  intro dot
  rcases List.append_eq_singleton_iff.mp dot with ⟨-, same⟩ | ⟨-, same⟩ <;> cases same

/-- **Which files are found below a base**: those of the name in the directories of the place that
the base leads to. -/
theorem mem_filesBelow_iff (sound : tree.Sound) (nonempty : base ≠ "")
    (plain : Tree.IsFileName file) :
    found ∈ filesBelow tree base file ↔ SteadilySpelled base ∧
      ∃ place name, tree.destination base = .ok place ∧ Holds tree base place name file ∧
        found = Path.join (taskPath base name) file := by
  have start := at_start sound base
  have inside (place : Place) (name : String) :
      place ++ [name, file] = (place ++ [name]) ++ [file] := by simp
  have joined {place : Place} {name : String}
      (present : (tree.look (place ++ [name])).isSome = true) :
      Tree.below (Tree.below (trail base) name) file = Path.join (taskPath base name) file :=
    below_taskPath (sound.name_of_look present) base file
  rw [filesBelow, patternsBelow, Path.sort, mem_sorted, ← steady_steps_iff]
  constructor
  · intro mem
    have steady := start.steady_of_mem_expand_quotes sound noSlash_of_mem_steps mem
    obtain ⟨place, walked, reached, mem⟩ :=
      start.of_mem_expand_quotes sound noSlash_of_mem_steps mem
    rw [walk_steps] at walked
    obtain ⟨name, present, fits, spelled⟩ := (reached.mem_expand_files sound plain).mp mem
    have directory := sound.look_parent (inside place name ▸ present)
    have same := joined (Option.isSome_of_eq_some directory)
    rw [trail] at same
    rw [same] at fits spelled
    exact ⟨steady, place, name, Tree.destination_of_walk walked, ⟨directory, present, fits⟩,
      spelled⟩
  · rintro ⟨steady, place, name, leads, holds, rfl⟩
    have there := Option.isSome_of_eq_some holds.directory
    have outer := sound.look_parent there
    have reached := at_trail sound nonempty (steady_steps_iff.mp steady) leads outer
    have mem := (reached.mem_expand_files sound plain).mpr
      ⟨name, holds.present, joined there ▸ holds.fits, rfl⟩
    -- the base can be looked up because a file below it can be
    have fits : Tree.pathFault? (trail base) = none :=
      reached.pathFault? (sound.name_of_look there).1
        ((reached.enter sound there).pathFault? plain.noSlash (joined there ▸ holds.fits))
    have walked := Tree.walk_parts_of_destination nonempty leads outer
    rw [← walk_steps] at walked
    rw [← joined there]
    exact (start.mem_expand_quotes sound noSlash_of_mem_steps steady walked fits mem).2

/-! ## The directories of tasks -/

theorem isFileName_of_mem {e : String × Format} (mem : e ∈ descriptionFiles) :
    Tree.IsFileName e.1 := by
  have all : ∀ e ∈ descriptionFiles, '/' ∉ e.1.toList ∧ Path.isSolid e.1 = true ∧ e.1 ≠ ".." ∧
      e.1.utf8ByteSize ≤ Tree.maxNameBytes ∧
      e.1.toList.all (fun c => !decide (Pattern.IsSpecial c)) = true := by
    decide
  obtain ⟨noSlash, solid, up, short, plain⟩ := all e mem
  refine ⟨noSlash, solid, up, short, ?_⟩
  simpa using plain

/-- A name in a base is that of a task: where the base leads to, the directory of this name holds a
description. -/
def IsTask (tree : Tree) (base name : String) : Prop :=
  ∃ place e, tree.destination base = .ok place ∧ e ∈ descriptionFiles ∧
    Holds tree base place name e.1

theorem IsTask.isName (sound : tree.Sound) (h : IsTask tree base name) :
    '/' ∉ name.toList ∧ Path.isSolid name = true ∧ name ≠ ".." := by
  obtain ⟨place, e, -, -, holds⟩ := h
  exact sound.name_of_look (Option.isSome_of_eq_some holds.directory)

theorem IsTask.components (sound : tree.Sound) (h : IsTask tree base name) :
    Path.components (taskPath base name) = Tree.leadingTo (trail base) ++ [.name name] := by
  obtain ⟨noSlash, solid, up⟩ := h.isName sound
  exact (Tree.components_below_name _ noSlash solid up).1

theorem IsTask.parent (sound : tree.Sound) (h : IsTask tree base name)
    (plain : Tree.IsFileName file) :
    Path.parent (Path.join (taskPath base name) file) = taskPath base name := by
  obtain ⟨noSlash, solid, up⟩ := h.isName sound
  obtain ⟨init, ends⟩ := (Tree.components_below_name (trail base) noSlash solid up).2
  exact Path.parent_join ends solid plain.noSlash plain.solid

/-- The directories in which a description was found. -/
def holders (tree : Tree) (base : String) : List String :=
  (descriptionFiles.map fun e => filesBelow tree base e.1).flatten.map Path.parent

theorem directories_eq (tree : Tree) (nonempty : base ≠ "") :
    directories tree base = .ok (Path.distinct (Path.sort (holders tree base))) := by
  have found : descriptionFiles.mapM (fun e => matching tree (patternBelow base ("*/" ++ e.1))) =
      .ok (descriptionFiles.map fun e => filesBelow tree base e.1) := by
    apply mapM_eq_ok
    intro e mem
    rw [matching, search_below nonempty (isFileName_of_mem mem)]
    rfl
  show descriptionFiles.mapM (fun e => matching tree (patternBelow base ("*/" ++ e.1))) >>= _ = _
  rw [found]
  rfl

theorem mem_holders_iff (sound : tree.Sound) (nonempty : base ≠ "") :
    path ∈ holders tree base ↔
      SteadilySpelled base ∧ ∃ name, IsTask tree base name ∧ path = taskPath base name := by
  rw [holders, List.mem_map]
  constructor
  · rintro ⟨found, mem, rfl⟩
    obtain ⟨files, there, mem⟩ := List.mem_flatten.mp mem
    obtain ⟨e, described, rfl⟩ := List.mem_map.mp there
    have plain := isFileName_of_mem described
    obtain ⟨steady, place, name, leads, holds, rfl⟩ :=
      (mem_filesBelow_iff sound nonempty plain).mp mem
    have task : IsTask tree base name := ⟨place, e, leads, described, holds⟩
    exact ⟨steady, name, task, task.parent sound plain⟩
  · rintro ⟨steady, name, task, rfl⟩
    obtain ⟨place, e, leads, described, holds⟩ := id task
    have plain := isFileName_of_mem described
    refine ⟨_, List.mem_flatten.mpr ⟨_, List.mem_map.mpr ⟨e, described, rfl⟩, ?_⟩,
      task.parent sound plain⟩
    exact (mem_filesBelow_iff sound nonempty plain).mpr
      ⟨steady, place, name, leads, holds, rfl⟩

/-- The directories of tasks are those of their names, each once and in order. -/
theorem directories_names (sound : tree.Sound) (nonempty : base ≠ "") :
    ∃ names : List String, directories tree base = .ok (names.map (taskPath base)) ∧
      names.Pairwise (· < ·) ∧
      ∀ name, name ∈ names ↔ SteadilySpelled base ∧ IsTask tree base name := by
  have tasks : ∀ path ∈ Path.distinct (Path.sort (holders tree base)),
      ∃ name, (SteadilySpelled base ∧ IsTask tree base name) ∧ path = taskPath base name := by
    intro path mem
    obtain ⟨steady, name, task, same⟩ := (mem_holders_iff sound nonempty).mp
      (mem_sorted.mp (Path.distinct_subset _ mem))
    exact ⟨name, ⟨steady, task⟩, same⟩
  obtain ⟨names, each⟩ := exists_forall₂_iff.mpr tasks
  have all : Path.distinct (Path.sort (holders tree base)) = names.map (taskPath base) := by
    have equal := List.forall₂_map_right_iff.mpr (each.imp fun _ _ related => related.2)
    rwa [List.forall₂_eq_eq_eq] at equal
  have named : ∀ name ∈ names, SteadilySpelled base ∧ IsTask tree base name := by
    intro name mem
    obtain ⟨-, -, task, -⟩ := exists_of_mem_results each mem
    exact task
  refine ⟨names, ?_, ?_, ?_⟩
  · rw [directories_eq tree nonempty, all]
  · have ascending := Path.pairwise_distinct (Path.inOrder_sort (holders tree base))
    rw [all, List.pairwise_map] at ascending
    refine ascending.imp_of_mem ?_
    intro a b first second step
    exact (Path.less_siblings ((named a first).2.components sound)
      ((named b second).2.components sound)).mp step
  · intro name
    refine ⟨named name, ?_⟩
    rintro ⟨steady, task⟩
    have held : taskPath base name ∈ Path.sort (holders tree base) :=
      mem_sorted.mpr ((mem_holders_iff sound nonempty).mpr ⟨steady, name, task, rfl⟩)
    obtain ⟨other, kept, same⟩ := Path.exists_same_of_mem held
    rw [all] at kept
    obtain ⟨name', mem, rfl⟩ := List.mem_map.mp kept
    -- equal components end in equal names
    rw [(named name' mem).2.components sound, task.components sound] at same
    obtain rfl := Component.name.inj (List.singleton_inj.mp (List.append_cancel_left same))
    exact mem

/-! ## The description of a directory -/

section descriptions
variable {directory : String} {format : Format} {front back : List (String × Format)}

/-- The description in a file. -/
def descriptionIn (tree : Tree) (path : String) (format : Format) : Except Failure Description := do
  let text ← fileContext ("Failed to read " ++ Text.quotedPath path) (tree.readText path)
  inContext ("Invalid task description in " ++ Text.quotedPath path) (format.read text)

theorem readDescription_cons {present : Bool}
    (found : tree.tryExists (Path.join directory file) = .ok present) :
    readDescription tree directory ((file, format) :: back) =
      if present then descriptionIn tree (Path.join directory file) format
      else readDescription tree directory back := by
  rw [readDescription, found]
  cases present <;> rfl

/-- Files that are not there are passed over. -/
theorem readDescription_first
    (absent : ∀ e ∈ front, tree.tryExists (Path.join directory e.1) = .ok false)
    (present : tree.tryExists (Path.join directory file) = .ok true) :
    readDescription tree directory (front ++ (file, format) :: back) =
      descriptionIn tree (Path.join directory file) format := by
  induction front with
  | nil => exact readDescription_cons present
  | cons e front ih =>
    obtain ⟨first, others⟩ := List.forall_mem_cons.mp absent
    rw [List.cons_append, readDescription_cons first, if_neg Bool.false_ne_true, ih others]

/-- The description of a directory at a place is read from the first of the description files that
is there. -/
def ReadsFirst (tree : Tree) (directory : String) (place : Place) : Prop :=
  ∃ front file format back, descriptionFiles = front ++ (file, format) :: back ∧
    (∀ e ∈ front, tree.look (place ++ [e.1]) = none) ∧
    (tree.look (place ++ [file])).isSome = true ∧
    readDescription tree directory descriptionFiles =
      descriptionIn tree (Path.join directory file) format

end descriptions

/-- The path of a task leads to the directory of its name, and the first description that is there
is read if the paths of descriptions can be looked up. -/
theorem IsTask.leads (sound : tree.Sound) (nonempty : base ≠ "") (steady : SteadilySpelled base)
    (h : IsTask tree base name) :
    ∃ place, tree.destination base = .ok place ∧
      tree.destination (taskPath base name) = .ok (place ++ [name]) ∧
      ((∀ e ∈ descriptionFiles, Tree.pathFault? (Path.join (taskPath base name) e.1) = none) →
        ReadsFirst tree (taskPath base name) (place ++ [name])) := by
  have joined := below_taskPath (h.isName sound) base
  obtain ⟨place, e, leads, described, holds⟩ := h
  have there := Option.isSome_of_eq_some holds.directory
  have reached := (at_trail sound nonempty steady leads (sound.look_parent there)).enter sound there
  refine ⟨place, leads, reached.leads, fun fits => ?_⟩
  have told : ∀ e ∈ descriptionFiles, tree.tryExists (Path.join (taskPath base name) e.1) =
      .ok (tree.look (place ++ [name] ++ [e.1])).isSome := by
    intro e mem
    have known := fits e mem
    rw [← joined] at known ⊢
    exact reached.tryExists_below (isFileName_of_mem mem) holds.directory known
  have present : ¬ ∀ e ∈ descriptionFiles, tree.look (place ++ [name] ++ [e.1]) = none := by
    intro none
    have held := holds.present
    rw [List.append_cons, none e described] at held
    cases held
  obtain ⟨front, ⟨file, format⟩, back, split, absent, found⟩ := exists_first present
  have some : (tree.look (place ++ [name] ++ [file])).isSome = true := by
    simpa [Option.isSome_iff_ne_none] using found
  refine ⟨front, file, format, back, split, absent, some, ?_⟩
  rw [split] at told ⊢
  apply readDescription_first
  · intro e mem
    rw [told e (List.mem_append_left _ mem), absent e mem]
    rfl
  · rw [told (file, format) (by simp), some]

/-! ## Loading what was found -/

/-- **The tasks below a base directory.** If the base is spelled steadily, its tasks are the direct
subdirectories that hold a description, each once and in ascending order. The description of each is
read from the first file that is there. Loading gives all tasks in this order, or the failure of the
first directory that has one. Of a base that is spelled otherwise no tasks are found. -/
theorem tasks_below (sound : tree.Sound) (nonempty : base ≠ "") :
    ∃ names : List String,
      directories tree base = .ok (names.map (taskPath base)) ∧
      names.Pairwise (· < ·) ∧
      (∀ name, name ∈ names ↔ SteadilySpelled base ∧ IsTask tree base name) ∧
      (∀ name ∈ names, ∃ place, tree.destination base = .ok place ∧
        tree.destination (taskPath base name) = .ok (place ++ [name]) ∧
        ((∀ e ∈ descriptionFiles, Tree.pathFault? (Path.join (taskPath base name) e.1) = none) →
          ReadsFirst tree (taskPath base name) (place ++ [name]))) ∧
      (∀ tasks, loadAll tree base = .ok tasks ↔
        List.Forall₂ (fun name task => load tree (taskPath base name) = .ok task) names tasks) ∧
      ∀ f, loadAll tree base = .error f ↔ ∃ front name back, names = front ++ name :: back ∧
        (∀ other ∈ front, ∃ task, load tree (taskPath base other) = .ok task) ∧
        load tree (taskPath base name) = .error f := by
  obtain ⟨names, listed, ascending, named⟩ := directories_names sound nonempty
  have loads : loadAll tree base = names.mapM fun name => load tree (taskPath base name) := by
    rw [loadAll, listed]
    show (names.map (taskPath base)).mapM (load tree) = _
    rw [List.mapM_map]
    rfl
  refine ⟨names, listed, ascending, named, ?_, ?_, ?_⟩
  · intro name mem
    obtain ⟨steady, task⟩ := (named name).mp mem
    exact task.leads sound nonempty steady
  · intro tasks
    rw [loads, mapM_eq_ok_iff]
  · intro f
    rw [loads, mapM_eq_error_iff]

/-- A base that is spelled with all special characters, in which one directory holds two
descriptions and one holds none. The pattern of the base, unescaped, would match another one. -/
def specialTree : Tree where
  here := []
  entries := [(["a[b]*?!"], .directory),
    (["a[b]*?!", "u"], .directory), (["a[b]*?!", "u", "metadata.yml"], .file (.text "")),
    (["a[b]*?!", "u", "metadata.json"], .file (.text "")),
    (["a[b]*?!", "none"], .directory),
    (["a[b]*?!", "t"], .directory), (["a[b]*?!", "t", "metadata.yaml"], .file (.text "")),
    (["ab1!"], .directory), (["ab1!", "v"], .directory),
    (["ab1!", "v", "metadata.json"], .file (.text ""))]

theorem sound_specialTree : specialTree.Sound where
  named := by
    unfold Tree.Named
    decide +kernel
  short := by decide +kernel
  nested := by decide +kernel
  standing := by
    intro count
    rw [specialTree, List.take_nil]
    rfl

/-- In that base two tasks are found, and of two descriptions the first is read. -/
theorem tasks_below_special :
    ∃ names : List String, names.map (taskPath "a[b]*?!") = ["a[b]*?!/t", "a[b]*?!/u"] ∧
      names.Pairwise (· < ·) ∧ "t" ∈ names ∧ "u" ∈ names ∧ "v" ∉ names ∧
      ReadsFirst specialTree (taskPath "a[b]*?!" "u") ["a[b]*?!", "u"] := by
  obtain ⟨names, listed, ascending, named, leads, -⟩ :=
    tasks_below sound_specialTree (show "a[b]*?!" ≠ "" by decide)
  have found : directories specialTree "a[b]*?!" = .ok ["a[b]*?!/t", "a[b]*?!/u"] :=
    eq_ok_of_toOption (by decide +kernel)
  have base : specialTree.destination "a[b]*?!" = .ok ["a[b]*?!"] :=
    eq_ok_of_toOption (by decide +kernel)
  have steady : SteadilySpelled "a[b]*?!" := .inr (by decide)
  have first : "t" ∈ names := (named "t").mpr ⟨steady, ["a[b]*?!"], ("metadata.yaml", .yaml), base,
    by decide, by decide +kernel, by decide +kernel, by decide +kernel⟩
  have second : "u" ∈ names := (named "u").mpr ⟨steady, ["a[b]*?!"], ("metadata.yml", .yaml), base,
    by decide, by decide +kernel, by decide +kernel, by decide +kernel⟩
  refine ⟨names, (Except.ok.inj (found.symm.trans listed)).symm, ascending, first, second, ?_, ?_⟩
  · intro other
    obtain ⟨-, place, e, leads, -, holds⟩ := (named "v").mp other
    obtain rfl := Except.ok.inj (base.symm.trans leads)
    exact absurd holds.directory (by decide +kernel)
  · obtain ⟨place, leads, -, reads⟩ := leads "u" second
    obtain rfl := Except.ok.inj (base.symm.trans leads)
    exact reads (by decide +kernel)

/-- The directory of a task lies in the current directory, but of a dot and a slash it is not
found. -/
theorem tasks_below_dot_slash :
    ¬ ∀ place, answeredTree.destination "./" = .ok place →
      ∃ paths, directories answeredTree "./" = .ok paths ∧
        ∀ name, answeredTree.look (place ++ [name]) = some .directory →
          (∃ e ∈ descriptionFiles, (answeredTree.look (place ++ [name, e.1])).isSome = true) →
          ∃ path ∈ paths, answeredTree.destination path = .ok (place ++ [name]) := by
  intro claim
  have here : answeredTree.destination "./" = .ok [] := eq_ok_of_toOption (by decide +kernel)
  have none : directories answeredTree "./" = .ok [] := eq_ok_of_toOption (by decide +kernel)
  obtain ⟨paths, listed, each⟩ := claim [] here
  obtain rfl := Except.ok.inj (none.symm.trans listed)
  obtain ⟨path, mem, -⟩ := each "t" (by decide +kernel)
    ⟨("metadata.json", .json), by decide, by decide +kernel⟩
  cases mem

end Assay.Task
