import Assay.Proofs.Files.Escaped
import Mathlib.Data.List.Nodup
import Mathlib.Data.List.Perm.Subperm

/-!
# Patterns that search one directory

A pattern for one name may stand for one name only, as a text without wildcards does. If all
components of a pattern for paths but the last do, a search with it looks into one directory. Main
statement: the files that such a search finds end in pairwise different names.

Names in a directory are pairwise different because every place of a tree has one entry. The two
dots that a pattern may match as well lead to directories, and so does what two stars find at the
end of a pattern.
-/

namespace Assay.Files

namespace Pattern

/-- A pattern that stands for one name at most. -/
structure SingleName (p : Pattern) : Prop where
  single : ∀ a b, p.Matches a → p.Matches b → a = b
  level : p.isRecursive = false

/-- An escaped text is read in one way. -/
theorem eq_quote_of_reads {text : List Char} {p : Pattern} (reads : Reads none (escape text) p) :
    p = quote text := by
  have parsed := parse_eq_ok.mpr (reads_escape_self text)
  rw [parse_eq_ok.mpr reads] at parsed
  exact Except.ok.inj parsed

/-- An escaped text stands for one name. -/
theorem singleName_quote (text : List Char) : (quote text).SingleName where
  single a b first second := by rw [quote_matches.mp first, quote_matches.mp second]
  level := isRecursive_quote text

/-- A text without special characters stands for one name. -/
theorem singleName_of_plain {text : List Char} (plain : ∀ c ∈ text, ¬ IsSpecial c) {p : Pattern}
    (reads : Reads none text p) : p.SingleName := by
  rw [← escape_eq_self plain] at reads
  exact eq_quote_of_reads reads ▸ singleName_quote text

end Pattern

/-- Each component of a pattern for paths but the last stands for one name at most. -/
def SearchesOneDirectory (pattern : List Char) : Prop :=
  ∀ part ∈ (pattern.splitOn '/').dropLast, ∀ p, Pattern.Reads none part p → p.SingleName

/-! ## Names that paths end in -/

namespace Path

variable {path name : String}

theorem eq_of_leading {part : String} (h : leading part = .name name) : part = name := by
  rw [← componentText_leading part, h]
  rfl

/-- The name that a path ends in is a name that an entry can have. -/
theorem proper_of_fileName (h : fileName? path = some name) :
    '/' ∉ name.toList ∧ isSolid name = true ∧ name ≠ ".." := by
  have last : .name name ∈ components path := by
    rw [fileName?] at h
    split at h
    · next ends =>
      obtain rfl := Option.some.inj h
      exact List.mem_of_getLast? ends
    · cases h
  refine ⟨?_, isSolid_of_mem_names (List.mem_filterMap.mpr ⟨_, last, rfl⟩)⟩
  have nonempty : path ≠ "" := by
    rintro rfl
    rw [components_empty] at last
    cases last
  obtain ⟨first, rest, split⟩ := List.exists_cons_of_ne_nil (parts_ne_nil path)
  refine noSlash_of_mem_parts (?_ : name ∈ parts path)
  rw [components_eq nonempty split] at last
  rw [split]
  rcases List.mem_cons.mp last with begins | later
  · exact eq_of_leading begins.symm ▸ List.mem_cons_self
  · obtain ⟨part, mem, same⟩ := List.mem_map.mp later
    exact List.mem_cons_of_mem first (eq_of_leading same ▸ (List.mem_filter.mp mem).1)

end Path

namespace Tree

variable {t : Tree} {path : String} {p : Pattern}

/-- A name that is joined to a path leads to a place of this name. -/
theorem exists_of_resolve_join {place : Place} {directory name : String}
    (proper : '/' ∉ name.toList ∧ Path.isSolid name = true ∧ name ≠ "..")
    (resolved : t.resolve (Path.join directory name) = .ok place) :
    ∃ outer, place = outer ++ [name] := by
  obtain ⟨noSlash, solid, up⟩ := proper
  obtain ⟨-, walked⟩ := walk_of_resolve resolved
  rw [Path.parts_join directory noSlash] at walked
  obtain ⟨outer, -, stepped⟩ := walk_append_eq_ok_iff.mp walked
  rw [walk_single] at stepped
  exact ⟨outer, step_name ⟨of_decide_eq_true solid, up⟩ stepped⟩

/-! ## Names in a directory -/

/-- A tree in which every place has one entry. -/
def Distinct (t : Tree) : Prop :=
  (t.entries.map Prod.fst).Nodup

theorem children_eq (place : Place) : t.children place =
    (t.entries.map Prod.fst).filterMap fun other =>
      if other.dropLast = place then other.getLast? else none := by
  rw [children, List.filterMap_map]
  congr 1
  funext ⟨other, entry⟩
  simp only [Function.comp]
  cases other.getLast? with
  | none => simp
  | some name => rfl

theorem Distinct.children (distinct : t.Distinct) (place : Place) : (t.children place).Nodup := by
  have whole {other : Place} {name : String}
      (h : (if other.dropLast = place then other.getLast? else none) = some name) :
      other = place ++ [name] := by
    split at h
    · next inside =>
      obtain ⟨init, rfl⟩ := List.getLast?_eq_some_iff.mp h
      rw [← inside, List.dropLast_concat]
    · cases h
  rw [children_eq]
  refine List.Nodup.filterMap ?_ distinct
  intro a b name first second
  rw [whole first, whole second]

/-- One level of a directory in a search: pairwise different names with the paths of these names. -/
theorem exists_names_of_descend (named : t.Named) (distinct : t.Distinct) (path : String) :
    ∃ names : List String, names.Nodup ∧
      (∀ name ∈ names, '/' ∉ name.toList ∧ Path.isSolid name = true ∧ name ≠ "..") ∧
      t.descend 1 path = names.map fun name => (name, below path name) := by
  have none : ∃ names : List String, names.Nodup ∧
      (∀ name ∈ names, '/' ∉ name.toList ∧ Path.isSolid name = true ∧ name ≠ "..") ∧
      ([] : List (String × String)) = names.map fun name => (name, below path name) :=
    ⟨[], List.nodup_nil, List.forall_mem_nil _, rfl⟩
  rw [descend]
  split
  · exact none
  · next place _ =>
    split
    · refine ⟨t.children place, distinct.children place, fun _ => named.children, ?_⟩
      simp only [descend, List.map_eq_flatMap]
    · exact none

theorem filterMap_matchesName (p : Pattern) (follow : String → String) (names : List String) :
    (names.filterMap fun name => if p.matchesName name.toList then some (follow name) else none) =
      (names.filter fun name => p.matchesName name.toList).map follow := by
  induction names with
  | nil => rfl
  | cons name names ih =>
    by_cases matched : p.matchesName name.toList = true <;> simp [matched, ih]

/-- What a pattern matches in a directory: pairwise different names, and perhaps dots. -/
theorem exists_names_of_namesMatching (named : t.Named) (distinct : t.Distinct) (p : Pattern)
    (path : String) :
    ∃ names dots : List String,
      t.namesMatching p path = names.map (below path) ++ dots.map (Path.join path) ∧
      (names ++ dots).Nodup ∧ (∀ name ∈ names ++ dots, p.Matches name.toList) ∧
      (∀ name ∈ names, '/' ∉ name.toList ∧ Path.isSolid name = true ∧ name ≠ "..") ∧
      ∀ name ∈ dots, name = "." ∨ name = ".." := by
  obtain ⟨names, nodup, proper, level⟩ := exists_names_of_descend named distinct path
  obtain ⟨dots, sub, there⟩ : ∃ dots : List String, dots.Sublist [".", ".."] ∧
      (if p.head? = some (.literal '.') ∧ t.isDirectory path then
        [".", ".."].filterMap fun dots =>
          if p.matchesName dots.toList then some (Path.join path dots) else none
      else []) = (dots.filter fun name => p.matchesName name.toList).map (Path.join path) := by
    split
    · exact ⟨[".", ".."], List.Sublist.refl _, filterMap_matchesName p _ _⟩
    · exact ⟨[], List.nil_sublist _, rfl⟩
  have either : ∀ name ∈ dots, name = "." ∨ name = ".." := by
    intro name mem
    simpa using sub.subset mem
  refine ⟨names.filter fun name => p.matchesName name.toList,
    dots.filter fun name => p.matchesName name.toList, ?_, ?_, ?_, ?_, ?_⟩
  · rw [namesMatching, level, List.filterMap_map, there]
    congr 1
    exact filterMap_matchesName p (below path) names
  · rw [← List.filter_append]
    refine List.Nodup.filter _ (nodup.append (sub.nodup (by decide)) ?_)
    -- a name in a directory is no dot
    intro name mem dot
    obtain ⟨-, solid, up⟩ := proper name mem
    rcases either name dot with rfl | rfl
    · exact absurd solid (by decide)
    · exact up rfl
  · intro name mem
    rw [← List.filter_append] at mem
    exact Pattern.matchesName_iff.mp (List.mem_filter.mp mem).2
  · exact fun name mem => proper name (List.mem_filter.mp mem).1
  · exact fun name mem => either name (List.mem_filter.mp mem).1

/-- A pattern that stands for one name matches one path at most. -/
theorem length_namesMatching_le_one (named : t.Named) (distinct : t.Distinct)
    (single : p.SingleName) (path : String) : (t.namesMatching p path).length ≤ 1 := by
  obtain ⟨names, dots, all, nodup, matched, -⟩ :=
    exists_names_of_namesMatching named distinct p path
  have count : (t.namesMatching p path).length = (names ++ dots).length := by
    rw [all, List.length_append, List.length_map, List.length_map, List.length_append]
  rw [count]
  cases both : names ++ dots with
  | nil => exact Nat.zero_le 1
  | cons first rest =>
    rw [both] at nodup matched
    have same : first :: rest ⊆ [first] := by
      intro name mem
      have equal := single.single _ _ (matched name mem) (matched first List.mem_cons_self)
      rw [String.toList_inj.mp equal]
      exact List.mem_cons_self
    exact (List.subperm_of_subset nodup same).length_le

/-! ## Following the components -/

section expand
variable {onlyDirectories : Bool} {rest patterns : List Pattern}

/-- A component without wildcards, or one that stands for one name, leads to one path at most, and
the search goes on from there. -/
theorem expand_of_single (named : t.Named) (distinct : t.Distinct)
    (single : (∃ text, p.literalText? = some text) ∨ p.SingleName) (rest : List Pattern)
    (path : String) :
    ∃ paths : List String, paths.length ≤ 1 ∧
      t.expand onlyDirectories (p :: rest) path =
        paths.flatMap (t.expand onlyDirectories rest) := by
  cases literal : p.literalText? with
  | some text =>
    rw [expand_literal literal]
    split
    · exact ⟨[below path (String.ofList text)], Nat.le_refl 1, (List.flatMap_singleton ..).symm⟩
    · exact ⟨[], Nat.zero_le 1, rfl⟩
  | none =>
    have single := single.resolve_left (by simp [literal])
    refine ⟨_, length_namesMatching_le_one named distinct single path, ?_⟩
    exact expand_names literal (by simp [single.level])

/-- Dots that are joined to a path lead to no file. -/
theorem isFile_join_dots {dots : String} (either : dots = "." ∨ dots = "..") (standing : t.Standing)
    (path : String) : t.isFile (Path.join path dots) = false := by
  have noSlash : '/' ∉ dots.toList := by
    rcases either with rfl | rfl <;> decide
  rw [Bool.eq_false_iff]
  intro file
  obtain ⟨place, content, resolved, found⟩ := isFile_iff.mp file
  obtain ⟨-, walked⟩ := walk_of_resolve resolved
  rw [Path.parts_join path noSlash] at walked
  obtain ⟨last, before, stepped⟩ := walk_append_eq_ok_iff.mp walked
  rw [walk_single] at stepped
  have directory := look_of_step stepped
  have reached := (reached_origin standing (Path.join path dots)).walk before
  rcases either with rfl | rfl
  · rw [step_not_isSolid (by decide) stepped, directory] at found
    cases found
  · obtain rfl : last.dropLast = place := by simpa [step, directory] using stepped
    rw [reached.look_dropLast directory] at found
    cases found

/-- The files in one directory that a pattern matches have pairwise different names. -/
theorem nodup_fileNames_namesMatching (named : t.Named) (distinct : t.Distinct)
    (standing : t.Standing) (p : Pattern) (path : String) :
    (((t.namesMatching p path).filter t.isFile).filterMap Path.fileName?).Nodup := by
  obtain ⟨names, dots, all, nodup, -, proper, either⟩ :=
    exists_names_of_namesMatching named distinct p path
  have none : (dots.map (Path.join path)).filter t.isFile = [] := by
    rw [List.filter_eq_nil_iff]
    intro other mem
    obtain ⟨name, dot, rfl⟩ := List.mem_map.mp mem
    simp [isFile_join_dots (either name dot) standing path]
  have ends : ∀ name ∈ names, Path.fileName? (below path name) = some name := by
    intro name mem
    obtain ⟨noSlash, solid, up⟩ := proper name mem
    rw [Path.fileName?, (components_below_name path noSlash solid up).1, List.getLast?_concat]
  have kept : (names.map (below path)).filterMap Path.fileName? = names := by
    rw [List.filterMap_map]
    exact (List.filterMap_congr ends).trans List.filterMap_some
  rw [all, List.filter_append, none, List.append_nil]
  have sub : ((names.map (below path)).filter t.isFile).Sublist (names.map (below path)) :=
    List.filter_sublist
  have names := sub.filterMap Path.fileName?
  rw [kept] at names
  exact names.nodup nodup.of_append_left

/-- Behind the last component the search stays where it is. -/
theorem expand_nil_sublist (path : String) :
    (t.expand onlyDirectories [] path).Sublist [path] := by
  rw [expand]
  split
  · exact List.nil_sublist _
  · exact List.Sublist.refl _

theorem flatMap_expand_nil_sublist (paths : List String) :
    (paths.flatMap (t.expand onlyDirectories [])).Sublist paths := by
  induction paths with
  | nil => exact List.Sublist.refl []
  | cons path paths ih =>
    rw [List.flatMap_cons]
    exact (expand_nil_sublist path).append ih

/-- Two stars at the end of a pattern stand for directories. -/
theorem filter_isFile_expand_recursive (wild : p.literalText? = none)
    (recursive : p.isRecursive = true) (path : String) :
    (t.expand onlyDirectories [p] path).filter t.isFile = [] := by
  rw [expand_recursive wild recursive, List.filter_eq_nil_iff]
  intro found mem file
  obtain ⟨⟨name, path'⟩, -, same⟩ := List.mem_filterMap.mp mem
  change (if t.isDirectory path' then some path' else none) = some found at same
  split at same
  · next directory =>
    obtain rfl := Option.some.inj same
    obtain ⟨place, resolved, there⟩ := isDirectory_iff.mp directory
    obtain ⟨place', content, resolved', found⟩ := isFile_iff.mp file
    obtain rfl := Except.ok.inj (resolved.symm.trans resolved')
    rw [there] at found
    cases found
  · cases same

/-- **One directory.** If all components of a search but the last stand for one name at most, then
the files that it finds have pairwise different names. -/
theorem nodup_fileNames_expand (named : t.Named) (distinct : t.Distinct) (standing : t.Standing)
    (single : ∀ p ∈ patterns.dropLast, p.SingleName) (path : String) :
    (((t.expand onlyDirectories patterns path).filter t.isFile).filterMap
      Path.fileName?).Nodup := by
  induction patterns generalizing path with
  | nil =>
    have one : ([path].filterMap Path.fileName?).Nodup := by
      cases ends : Path.fileName? path <;> simp [ends]
    refine List.Sublist.nodup (List.Sublist.filterMap _ ?_) one
    exact List.filter_sublist.trans (expand_nil_sublist path)
  | cons p rest ih =>
    by_cases first : (∃ text, p.literalText? = some text) ∨ p.SingleName
    · have others : ∀ q ∈ rest.dropLast, q.SingleName := by
        intro q mem
        cases rest with
        | nil => cases mem
        | cons following after => exact single q (List.mem_cons_of_mem p mem)
      obtain ⟨paths, one, all⟩ :=
        expand_of_single named distinct first rest path
      rw [all]
      match paths, one with
      | [], _ => exact List.nodup_nil
      | [next], _ =>
        rw [List.flatMap_singleton]
        exact ih others next
    · -- only the last component may stand for several names
      obtain ⟨wild, several⟩ := not_or.mp first
      have wild : p.literalText? = none :=
        Option.eq_none_iff_forall_ne_some.mpr (not_exists.mp wild)
      obtain rfl : rest = [] := by
        cases rest with
        | nil => rfl
        | cons following after => exact absurd (single p List.mem_cons_self) several
      by_cases recursive : p.isRecursive = true
      · rw [filter_isFile_expand_recursive wild recursive]
        exact List.nodup_nil
      · rw [expand_names wild recursive]
        have all := nodup_fileNames_namesMatching named distinct standing p path
        exact (((flatMap_expand_nil_sublist _).filter t.isFile).filterMap Path.fileName?).nodup all

end expand

/-! ## Searching -/

theorem dropLast_patternParts_subset (text : List Char) :
    (patternParts text).dropLast ⊆ (text.splitOn '/').dropLast := by
  rw [patternParts]
  split
  · exact List.dropLast_subset _
  · exact List.Subset.refl _

/-- The components that a search follows before the last one are such components of its pattern. -/
theorem dropLast_searchParts_subset (pattern : String) :
    (searchParts pattern).dropLast ⊆ (pattern.toList.splitOn '/').dropLast := by
  unfold searchParts
  by_cases absolute : Path.isAbsolute pattern = true
  · obtain ⟨rest, chars⟩ := Path.exists_of_isAbsolute absolute
    have whole : pattern.toList.splitOn '/' = [] :: rest.splitOn '/' := by
      rw [chars, List.splitOn_cons_eq_if_modifyHead, if_pos (by rfl)]
    rw [if_pos absolute, whole, List.dropLast_cons_of_ne_nil (List.splitOn_ne_nil '/' rest), chars]
    exact List.subset_cons_of_subset [] (dropLast_patternParts_subset rest)
  · rw [if_neg absolute]
    exact dropLast_patternParts_subset pattern.toList

/-- **The files that a search in one directory finds have pairwise different names.** -/
theorem nodup_fileNames_of_search (named : t.Named) (distinct : t.Distinct) (standing : t.Standing)
    {pattern : String} {found : List String} (one : SearchesOneDirectory pattern.toList)
    (searched : t.search pattern = .ok found) :
    ((found.filter t.isFile).filterMap Path.fileName?).Nodup := by
  obtain ⟨-, components, reads, rfl⟩ := search_eq_ok_iff.mp searched
  have single : ∀ p ∈ components.dropLast, p.SingleName := by
    intro p mem
    have fronts := List.forall₂_take (components.length - 1) reads
    rw [← List.dropLast_eq_take, ← reads.length_eq, ← List.dropLast_eq_take] at fronts
    obtain ⟨part, there, reads⟩ := exists_of_mem_results fronts mem
    exact one part (dropLast_searchParts_subset pattern there) p reads
  rw [collapse_eq_self fun p mem => (single p mem).level]
  have all := ((sorted_perm Path.less (t.expand (pattern.toList.getLast? == some '/') components
    (searchStart pattern))).filter t.isFile).filterMap Path.fileName?
  exact all.nodup_iff.mpr (nodup_fileNames_expand named distinct standing single _)

end Tree

/-- A directory before a pattern leads to one directory, however it is spelled. -/
theorem searchesOneDirectory_below {rest : List Char} (one : SearchesOneDirectory rest)
    (directory : List Char) :
    SearchesOneDirectory (Pattern.escape directory ++ '/' :: rest) := by
  intro part mem p reads
  rw [List.splitOn_append_cons_self, Pattern.splitOn_escape,
    List.dropLast_append_of_ne_nil (List.splitOn_ne_nil '/' rest)] at mem
  rcases List.mem_append.mp mem with mem | mem
  · obtain ⟨text, -, rfl⟩ := List.mem_map.mp mem
    exact Pattern.eq_quote_of_reads reads ▸ Pattern.singleName_quote text
  · exact one part mem p reads

end Assay.Files
