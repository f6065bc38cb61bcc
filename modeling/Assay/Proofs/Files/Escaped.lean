import Assay.Proofs.Files.Following

/-!
# Searching along escaped paths

Whatever characters a path is spelled with, a search that follows its escaped parts walks along
them: a part without special characters is looked up, and any other part is the only name in its
directory that its pattern matches. Main statements: what is found behind escaped parts is found
where they lead, and what is found there by the pattern of any name and a file name are the files of
this name in the directories there.
-/

namespace Assay.Files

/-! ## Patterns that are spelled out -/

namespace Pattern

theorem special_or_plain (text : List Char) :
    (∃ c ∈ text, IsSpecial c) ∨ ∀ c ∈ text, ¬ IsSpecial c := by
  induction text with
  | nil => exact .inr (List.forall_mem_nil _)
  | cons c text ih =>
    by_cases first : IsSpecial c
    · exact .inl ⟨c, List.mem_cons_self, first⟩
    · rcases ih with ⟨d, mem, special⟩ | plain
      · exact .inl ⟨d, List.mem_cons_of_mem c mem, special⟩
      · exact .inr (List.forall_mem_cons.mpr ⟨first, plain⟩)

/-- An escaped text without special characters is its own pattern. -/
theorem literalText?_quote {text : List Char} (plain : ∀ c ∈ text, ¬ IsSpecial c) :
    (quote text).literalText? = some text := by
  induction text with
  | nil => rfl
  | cons c text ih =>
    obtain ⟨first, others⟩ := List.forall_mem_cons.mp plain
    rw [quote, List.map_cons, ← quote, if_neg first, literalText?, ih others]
    rfl

/-- An escaped text with special characters is no literal. -/
theorem literalText?_quote_special {text : List Char} (special : ∃ c ∈ text, IsSpecial c) :
    (quote text).literalText? = none := by
  obtain ⟨c, mem, special⟩ := special
  induction text with
  | nil => cases mem
  | cons d text ih =>
    rw [quote, List.map_cons, ← quote]
    by_cases first : IsSpecial d
    · -- a set ends the literal
      rw [if_pos first]
      rfl
    · have later : c ∈ text := by
        rcases List.mem_cons.mp mem with rfl | later
        · exact absurd special first
        · exact later
      rw [if_neg first, literalText?, ih later]
      rfl

theorem isRecursive_quote (text : List Char) : (quote text).isRecursive = false := by
  rw [isRecursive, List.contains_eq_mem, decide_eq_false_iff_not, quote]
  intro mem
  obtain ⟨c, -, same⟩ := List.mem_map.mp mem
  split at same <;> cases same

end Pattern

namespace Tree

/-- Components of which at most the last is recursive are left as they are. -/
theorem collapse_eq_self {patterns : List Pattern}
    (h : ∀ p ∈ patterns.dropLast, p.isRecursive = false) : collapse patterns = patterns := by
  induction patterns with
  | nil => rfl
  | cons p rest ih =>
    cases rest with
    | nil => rfl
    | cons following after =>
      obtain ⟨first, others⟩ := List.forall_mem_cons.mp h
      rw [collapse, ih others]
      simp [first]

variable {t : Tree} {path part name found : String} {place next last : Place}

/-! ## Following one part -/

/-- Above a directory is a directory. -/
theorem Sound.look_dropLast (sound : t.Sound)
    (directory : t.look place = some .directory) :
    t.look place.dropLast = some .directory := by
  rcases List.eq_nil_or_concat' place with rfl | ⟨init, name, rfl⟩
  · exact directory
  · rw [List.dropLast_concat]
    exact sound.look_parent (Option.isSome_of_eq_some directory)

/-- Wherever a step leads to something stands. -/
theorem Sound.isSome_look_of_step (sound : t.Sound) (stepped : t.step place part = .ok next) :
    (t.look next).isSome = true := by
  have directory := look_of_step stepped
  rw [step, directory] at stepped
  dsimp only at stepped
  split at stepped
  · rw [← Except.ok.inj stepped, directory]
    rfl
  split at stepped
  · rw [← Except.ok.inj stepped, sound.look_dropLast directory]
    rfl
  split at stepped
  · cases stepped
  split at stepped
  · next present => exact Except.ok.inj stepped ▸ present
  · cases stepped

/-- A name leads on when it is a step whose path can be looked up. -/
theorem At.leadsOn_iff (sound : t.Sound) (h : t.At path place) (noSlash : '/' ∉ part.toList)
    (named : ¬ (part = "." ∨ part = "..")) :
    t.leadsOn path part = true ↔ Tree.pathFault? (below path part) = none ∧
      ∃ next, t.step place part = .ok next := by
  rw [leadsOn, if_neg named, stat_isOk_iff]
  constructor
  · rintro ⟨next, resolved, -⟩
    obtain ⟨fits, stepped⟩ := (h.resolve_below_iff noSlash).mp resolved
    exact ⟨fits, next, stepped⟩
  · rintro ⟨fits, next, stepped⟩
    exact ⟨next, (h.resolve_below_iff noSlash).mpr ⟨fits, stepped⟩,
      sound.isSome_look_of_step stepped⟩

/-- Dots lead on from a directory. -/
theorem At.leadsOn_dots_iff (h : t.At path place) (dots : part = "." ∨ part = "..") :
    t.leadsOn path part = true ↔ Tree.pathFault? path = none ∧
      ∃ next, t.step place part = .ok next := by
  rw [leadsOn, if_pos dots, h.isDirectory_iff]
  refine and_congr_right fun _ => ?_
  constructor
  · intro directory
    rw [step, directory]
    rcases dots with rfl | rfl
    · exact ⟨place, rfl⟩
    · exact ⟨place.dropLast, rfl⟩
  · rintro ⟨next, stepped⟩
    exact look_of_step stepped

/-- One level of a directory in a search is what lies in it. -/
theorem At.mem_descend_iff (h : t.At path place) :
    (name, found) ∈ t.descend 1 path ↔
      Tree.pathFault? path = none ∧ t.look place = some .directory ∧ name ∈ t.children place ∧
        found = below path name := by
  rw [descend]
  cases resolved : t.resolve path with
  | error e =>
    constructor
    · intro mem
      cases mem
    · rintro ⟨fits, directory, -⟩
      rw [(h.resolve_iff directory).mpr ⟨fits, rfl⟩] at resolved
      cases resolved
  | ok last =>
    dsimp only
    by_cases directory : t.look last = some .directory
    · obtain ⟨fits, rfl⟩ := (h.resolve_iff directory).mp resolved
      rw [if_pos directory]
      simp [descend, fits, directory]
    · rw [if_neg directory]
      constructor
      · intro mem
        cases mem
      · rintro ⟨fits, there, -⟩
        rw [(h.resolve_iff there).mpr ⟨fits, rfl⟩] at resolved
        exact absurd (Except.ok.inj resolved ▸ there) directory

/-- A pattern that stands for no dots matches names of what lies in a directory. -/
theorem At.mem_namesMatching_iff {p : Pattern} (sound : t.Sound) (h : t.At path place)
    (dots : p.head? = some (.literal '.') → ¬ p.Matches ['.'] ∧ ¬ p.Matches ['.', '.']) :
    found ∈ t.namesMatching p path ↔ Tree.pathFault? path = none ∧
      ∃ name, (t.look (place ++ [name])).isSome = true ∧ p.Matches name.toList ∧
        found = below path name := by
  have none : (if p.head? = some (.literal '.') ∧ t.isDirectory path then
      [".", ".."].filterMap fun dots =>
        if p.matchesName dots.toList then some (Path.join path dots) else none
      else []) = [] := by
    split
    · next begins =>
      obtain ⟨one, two⟩ := dots begins.1
      rw [← Pattern.matchesName_iff, Bool.not_eq_true] at one two
      simp [one, two]
    · rfl
  rw [namesMatching, none, List.append_nil, List.mem_filterMap]
  constructor
  · rintro ⟨⟨name, path'⟩, there, same⟩
    change (if p.matchesName name.toList then some path' else _) = some found at same
    split at same
    · next matched =>
      obtain rfl := Option.some.inj same
      obtain ⟨fits, -, child, rfl⟩ := h.mem_descend_iff.mp there
      exact ⟨fits, name, mem_children_iff.mp child, Pattern.matchesName_iff.mp matched, rfl⟩
    · cases same
  · rintro ⟨fits, name, present, matched, rfl⟩
    refine ⟨(name, below path name), h.mem_descend_iff.mpr ?_, ?_⟩
    · exact ⟨fits, sound.look_parent present, mem_children_iff.mpr present, rfl⟩
    · exact if_pos (Pattern.matchesName_iff.mpr matched)

/-! ## Following escaped parts -/

/-- A name with special characters is neither empty nor dots. -/
theorem isSolid_of_special (special : ∃ c ∈ part.toList, Pattern.IsSpecial c) :
    Path.isSolid part = true ∧ part ≠ ".." := by
  have other : ∀ text : String, (∀ c ∈ text.toList, ¬ Pattern.IsSpecial c) → part ≠ text := by
    rintro _ plain rfl
    obtain ⟨c, mem, special⟩ := special
    exact plain c mem special
  refine ⟨decide_eq_true (not_or.mpr ⟨?_, ?_⟩), ?_⟩
  all_goals
    apply other
    simp [Pattern.IsSpecial]

section parts
variable {onlyDirectories : Bool} {rest : List Pattern}

/-- What an escaped name with special characters stands for in a directory is the path of this name,
if something stands there. -/
theorem At.mem_namesMatching_quote (sound : t.Sound) (h : t.At path place)
    (special : ∃ c ∈ part.toList, Pattern.IsSpecial c) :
    found ∈ t.namesMatching (Pattern.quote part.toList) path ↔
      Tree.pathFault? path = none ∧ t.step place part = .ok (place ++ [part]) ∧
        found = below path part := by
  obtain ⟨solid, up⟩ := isSolid_of_special special
  obtain ⟨named, dot⟩ := not_or.mp (of_decide_eq_true solid)
  have dots : (Pattern.quote part.toList).head? = some (.literal '.') →
      ¬ (Pattern.quote part.toList).Matches ['.'] ∧
        ¬ (Pattern.quote part.toList).Matches ['.', '.'] := by
    intro _
    constructor <;> intro same
    · exact dot (String.toList_injective (Pattern.quote_matches.mp same).symm)
    · exact up (String.toList_injective (Pattern.quote_matches.mp same).symm)
  rw [h.mem_namesMatching_iff sound dots]
  refine and_congr_right fun _ => ?_
  constructor
  · rintro ⟨name, present, matched, rfl⟩
    obtain rfl := String.toList_injective (Pattern.quote_matches.mp matched)
    exact ⟨sound.step_name present, rfl⟩
  · rintro ⟨stepped, rfl⟩
    exact ⟨part, sound.isSome_look_of_step stepped, Pattern.quote_matches.mpr rfl, rfl⟩

/-- An escaped part that is followed is a step, and the search goes on from there. -/
theorem At.of_mem_expand_quote (sound : t.Sound) (h : t.At path place)
    (noSlash : '/' ∉ part.toList)
    (mem : found ∈ t.expand onlyDirectories (Pattern.quote part.toList :: rest) path) :
    ∃ next, t.step place part = .ok next ∧ t.At (below path part) next ∧
      found ∈ t.expand onlyDirectories rest (below path part) := by
  rcases Pattern.special_or_plain part.toList with special | plain
  · have wild := Pattern.literalText?_quote_special special
    rw [expand_names wild (by simp [Pattern.isRecursive_quote])] at mem
    obtain ⟨path', there, later⟩ := List.mem_flatMap.mp mem
    obtain ⟨-, stepped, rfl⟩ := (h.mem_namesMatching_quote sound special).mp there
    have named := Path.ne_empty_of_isSolid (isSolid_of_special special).1
    exact ⟨_, stepped, h.follow noSlash (below_ne_empty named) stepped, later⟩
  · rw [expand_literal (Pattern.literalText?_quote plain), String.ofList_toList] at mem
    split at mem
    · next leads =>
      obtain ⟨next, stepped⟩ : ∃ next, t.step place part = .ok next := by
        by_cases dots : part = "." ∨ part = ".."
        · exact ((h.leadsOn_dots_iff dots).mp leads).2
        · exact ((h.leadsOn_iff sound noSlash dots).mp leads).2
      exact ⟨next, stepped, h.follow noSlash (below_ne_empty_of_leadsOn leads) stepped, mem⟩
    · cases mem

/-- A step is followed if its path can be looked up. -/
theorem At.mem_expand_quote (sound : t.Sound) (h : t.At path place) (noSlash : '/' ∉ part.toList)
    (stepped : t.step place part = .ok next)
    (fits : Tree.pathFault? (below path part) = none)
    (mem : found ∈ t.expand onlyDirectories rest (below path part)) :
    found ∈ t.expand onlyDirectories (Pattern.quote part.toList :: rest) path := by
  rcases Pattern.special_or_plain part.toList with special | plain
  · obtain ⟨solid, up⟩ := isSolid_of_special special
    obtain rfl := step_name ⟨of_decide_eq_true solid, up⟩ stepped
    have wild := Pattern.literalText?_quote_special special
    rw [expand_names wild (by simp [Pattern.isRecursive_quote])]
    refine List.mem_flatMap.mpr ⟨below path part, ?_, mem⟩
    exact (h.mem_namesMatching_quote sound special).mpr ⟨h.pathFault? noSlash fits, stepped, rfl⟩
  · have leads : t.leadsOn path part = true := by
      by_cases dots : part = "." ∨ part = ".."
      · exact (h.leadsOn_dots_iff dots).mpr ⟨h.pathFault? noSlash fits, next, stepped⟩
      · exact (h.leadsOn_iff sound noSlash dots).mpr ⟨fits, next, stepped⟩
    rw [expand_literal (Pattern.literalText?_quote plain), String.ofList_toList, if_pos leads]
    exact mem

/-- The patterns of some parts. -/
def quotes (parts : List String) : List Pattern :=
  parts.map fun part => Pattern.quote part.toList

/-- **Following escaped parts is walking along them.** What is found after them is found from a path
that leads where they lead. -/
theorem At.of_mem_expand_quotes {parts : List String} (sound : t.Sound) (h : t.At path place)
    (noSlash : ∀ part ∈ parts, '/' ∉ part.toList)
    (mem : found ∈ t.expand onlyDirectories (quotes parts ++ rest) path) :
    ∃ last, t.walk place parts = .ok last ∧ t.At (parts.foldl below path) last ∧
      found ∈ t.expand onlyDirectories rest (parts.foldl below path) := by
  -- on the parts, where each step moves the path and its place together
  induction parts generalizing path place with
  | nil => exact ⟨place, rfl, h, mem⟩
  | cons part parts ih =>
    obtain ⟨first, others⟩ := List.forall_mem_cons.mp noSlash
    obtain ⟨next, stepped, reached, later⟩ := h.of_mem_expand_quote sound first mem
    obtain ⟨last, walked, there, mem⟩ := ih reached others later
    exact ⟨last, walk_cons_eq_ok_iff.mpr ⟨next, stepped, walked⟩, there, mem⟩

/-- Parts do not lead a path from the dot at which a search begins to the empty path: the first of
them that is no dot is not empty. -/
def Steady (path : String) (parts : List String) : Prop :=
  path = "." → (parts.dropWhile (· = ".")).head? ≠ some ""

theorem At.steady_below {parts : List String} (h : t.At path place) (noSlash : '/' ∉ part.toList)
    (steady : Steady path (part :: parts)) :
    below path part ≠ "" ∧ Steady (below path part) parts := by
  rcases h.here_or with ⟨rfl, -⟩ | other
  · have first := steady rfl
    rw [below_dot]
    by_cases dot : part = "."
    · subst dot
      exact ⟨by decide, fun _ => first⟩
    · rw [List.dropWhile_cons_of_neg (by simpa using dot)] at first
      exact ⟨fun empty => first (congrArg some empty), fun same => absurd same dot⟩
  · have more := h.components_below other noSlash
    constructor
    · rw [below_of_ne_here other]
      intro empty
      have all : Path.components (Path.join path part) =
          Path.components path ++ ([part].filter Path.isSolid).map Path.leading :=
        Path.components_join_part h.nonempty noSlash
      rw [empty, Path.components_empty] at all
      exact Path.components_ne_nil h.nonempty (List.append_eq_nil_iff.mp all.symm).1
    · -- a dot that has been left is not come back to
      intro dot
      exact absurd (by rw [dot]; decide) more

/-- Parts that lead to the empty path are not followed. -/
theorem At.steady_of_mem_expand_quotes {parts : List String} (sound : t.Sound)
    (h : t.At path place) (noSlash : ∀ part ∈ parts, '/' ∉ part.toList)
    (mem : found ∈ t.expand onlyDirectories (quotes parts ++ rest) path) : Steady path parts := by
  induction parts generalizing path place with
  | nil => exact fun _ => Option.some_ne_none "" |>.symm
  | cons part parts ih =>
    obtain ⟨first, others⟩ := List.forall_mem_cons.mp noSlash
    obtain ⟨next, -, reached, later⟩ := h.of_mem_expand_quote sound first mem
    intro start
    subst start
    have steady := ih reached others later
    have nonempty := reached.nonempty
    rw [below_dot] at steady nonempty
    by_cases dot : part = "."
    · rw [List.dropWhile_cons_of_pos (by simpa using dot)]
      exact steady dot
    · rw [List.dropWhile_cons_of_neg (by simpa using dot)]
      simpa using nonempty

/-- A walk along parts leads where the path of these parts leads. -/
theorem At.followAll {parts : List String} (h : t.At path place)
    (noSlash : ∀ part ∈ parts, '/' ∉ part.toList) (steady : Steady path parts)
    (walked : t.walk place parts = .ok last) : t.At (parts.foldl below path) last := by
  induction parts generalizing path place with
  | nil => exact Except.ok.inj walked ▸ h
  | cons part parts ih =>
    obtain ⟨first, others⟩ := List.forall_mem_cons.mp noSlash
    obtain ⟨nonempty, later⟩ := h.steady_below first steady
    obtain ⟨next, stepped, walked⟩ := walk_cons_eq_ok_iff.mp walked
    exact ih (h.follow first nonempty stepped) others later walked

/-- A walk along parts is followed if the path of these parts can be looked up. -/
theorem At.mem_expand_quotes {parts : List String} (sound : t.Sound) (h : t.At path place)
    (noSlash : ∀ part ∈ parts, '/' ∉ part.toList) (steady : Steady path parts)
    (walked : t.walk place parts = .ok last)
    (fits : Tree.pathFault? (parts.foldl below path) = none)
    (mem : found ∈ t.expand onlyDirectories rest (parts.foldl below path)) :
    Tree.pathFault? path = none ∧
      found ∈ t.expand onlyDirectories (quotes parts ++ rest) path := by
  induction parts generalizing path place with
  | nil => exact ⟨fits, mem⟩
  | cons part parts ih =>
    obtain ⟨first, others⟩ := List.forall_mem_cons.mp noSlash
    obtain ⟨nonempty, later⟩ := h.steady_below first steady
    obtain ⟨next, stepped, walked⟩ := walk_cons_eq_ok_iff.mp walked
    obtain ⟨fits', mem'⟩ := ih (h.follow first nonempty stepped) others later walked fits mem
    exact ⟨h.pathFault? first fits', h.mem_expand_quote sound first stepped fits' mem'⟩

/-- A search enters what lies in a directory. -/
theorem At.enter (sound : t.Sound) (h : t.At path place)
    (present : (t.look (place ++ [name])).isSome = true) :
    t.At (below path name) (place ++ [name]) := by
  obtain ⟨noSlash, solid, -⟩ := sound.name_of_look present
  exact h.follow noSlash (below_ne_empty (Path.ne_empty_of_isSolid solid))
    (sound.step_name present)

/-- The pattern of any name. -/
def anyName : Pattern := [.anySequence]

theorem matches_anyName (name : List Char) : anyName.Matches name := by
  have all : anyName.Matches (name ++ []) := .sequence rfl .done
  rwa [List.append_nil] at all

/-- A name of files that patterns spell as it is: it is no dots and has no special characters. -/
structure IsFileName (file : String) : Prop where
  noSlash : '/' ∉ file.toList
  solid : Path.isSolid file = true
  up : file ≠ ".."
  short : file.utf8ByteSize ≤ maxNameBytes
  plain : ∀ c ∈ file.toList, ¬ Pattern.IsSpecial c

theorem IsFileName.toList_ne_nil {file : String} (plain : IsFileName file) : file.toList ≠ [] := by
  simpa using Path.ne_empty_of_isSolid plain.solid

/-- A file name is its own pattern. -/
theorem IsFileName.reads {file : String} (plain : IsFileName file) :
    Pattern.Reads none file.toList (Pattern.quote file.toList) := by
  have reads := Pattern.reads_escape_self file.toList
  rwa [Pattern.escape_eq_self plain.plain] at reads

/-- Whether a file is in a directory can be told if its path can be looked up. -/
theorem At.tryExists_below {file : String} (h : t.At path place) (plain : IsFileName file)
    (directory : t.look place = some .directory)
    (fits : Tree.pathFault? (below path file) = none) :
    t.tryExists (below path file) = .ok (t.look (place ++ [file])).isSome := by
  have resolved : t.resolve (below path file) = t.step place file := by
    rw [resolve, fits]
    exact h.walk_below plain.noSlash directory
  have stepped : t.step place file =
      if (t.look (place ++ [file])).isSome then .ok (place ++ [file]) else .error .notFound := by
    rw [step, directory]
    simp only [if_neg (of_decide_eq_true plain.solid), if_neg plain.up,
      if_neg (Nat.not_lt.mpr plain.short)]
  rw [tryExists, stat, resolved, stepped]
  cases found : t.look (place ++ [file]) with
  | none => rfl
  | some entry => simp [bind, Except.bind, found]

theorem At.mem_expand_file {file : String} (sound : t.Sound) (h : t.At path place)
    (plain : IsFileName file) :
    found ∈ t.expand false [Pattern.quote file.toList] path ↔
      Tree.pathFault? (below path file) = none ∧
        (t.look (place ++ [file])).isSome = true ∧ found = below path file := by
  have literal := Pattern.literalText?_quote plain.plain
  have named := of_decide_eq_true plain.solid
  have dots : ¬ (file = "." ∨ file = "..") := by
    rintro (same | same)
    · exact named (.inr same)
    · exact plain.up same
  have stepped : (∃ next, t.step place file = .ok next) ↔
      (t.look (place ++ [file])).isSome = true := by
    constructor
    · rintro ⟨next, stepped⟩
      obtain rfl := step_name ⟨named, plain.up⟩ stepped
      exact sound.isSome_look_of_step stepped
    · intro present
      exact ⟨_, sound.step_name present⟩
  rw [expand_literal literal, String.ofList_toList, ← stepped, ← and_assoc,
    ← h.leadsOn_iff sound plain.noSlash dots]
  by_cases leads : t.leadsOn path file = true <;> simp [leads, expand]

/-- **Files of one name in the directories below a path.** They are found by the pattern of any name
and that of theirs, if their paths can be looked up. -/
theorem At.mem_expand_files {file : String} (sound : t.Sound) (h : t.At path place)
    (plain : IsFileName file) :
    found ∈ t.expand false [anyName, Pattern.quote file.toList] path ↔
      ∃ name, (t.look (place ++ [name, file])).isSome = true ∧
        Tree.pathFault? (below (below path name) file) = none ∧
        found = below (below path name) file := by
  have names : t.expand false [anyName, Pattern.quote file.toList] path =
      (t.namesMatching anyName path).flatMap
        (t.expand false [Pattern.quote file.toList]) :=
    expand_names rfl (by decide)
  have inside (name : String) : place ++ [name, file] = (place ++ [name]) ++ [file] := by simp
  rw [names, List.mem_flatMap]
  constructor
  · rintro ⟨path', there, mem⟩
    obtain ⟨-, name, present, -, rfl⟩ :=
      (h.mem_namesMatching_iff sound fun begins => by cases begins).mp there
    obtain ⟨fits, present', rfl⟩ := ((h.enter sound present).mem_expand_file sound plain).mp mem
    exact ⟨name, inside name ▸ present', fits, rfl⟩
  · rintro ⟨name, present, fits, rfl⟩
    rw [inside] at present
    have directory := Option.isSome_of_eq_some (sound.look_parent present)
    -- the paths on the way are shorter
    have fits' := h.pathFault? (sound.name_of_look directory).1
      ((h.enter sound directory).pathFault? plain.noSlash fits)
    refine ⟨below path name, ?_, ?_⟩
    · exact (h.mem_namesMatching_iff sound fun begins => by cases begins).mpr
        ⟨fits', name, directory, matches_anyName _, rfl⟩
    · exact ((h.enter sound directory).mem_expand_file sound plain).mpr ⟨fits, present, rfl⟩

end parts

end Tree

end Assay.Files
