import Assay.Proofs.Files.Patterns
import Assay.Proofs.Files.Places

/-!
# The spelling of what a search finds

A search follows a pattern component by component. If none of them stands for two dots, whatever is
found is spelled without dots, or is the single dot where a search begins; and it is absolute just
when the pattern is.
-/

namespace Assay.Files

/-! ## Patterns that climb -/

namespace Pattern

/-- A component of a pattern may lead up a directory. -/
def Climbs (p : Pattern) : Prop :=
  p.head? = some (.literal '.') ∧ Matches p ['.', '.']

theorem eq_of_literalText {p : Pattern} {text : List Char} (h : p.literalText? = some text) :
    p = text.map .literal := by
  induction p generalizing text with
  | nil =>
    obtain rfl : [] = text := Option.some.inj h
    rfl
  | cons token p ih =>
    cases token with
    | literal c =>
      rw [literalText?, Option.map_eq_some_iff] at h
      obtain ⟨others, found, rfl⟩ := h
      rw [ih found, List.map_cons]
    | _ => cases h

/-- A pattern without wildcards is its own text. -/
theorem Reads.literalText {before : Option Char} {text part : List Char} {p : Pattern}
    (h : Reads before text p) (literal : p.literalText? = some part) : part = text := by
  induction h generalizing part with
  | done => exact (Option.some.inj literal).symm
  | literal _ _ ih =>
    rw [literalText?, Option.map_eq_some_iff] at literal
    obtain ⟨others, found, rfl⟩ := literal
    rw [ih found]
  | @set _ text token _ after p first _ _ =>
    have other := (readSet_eq_some first).2
    cases token with
    | literal c => exact absurd rfl (other c)
    | _ => cases literal
  | _ => cases literal

theorem climbs_of_literalText {p : Pattern} (h : p.literalText? = some ['.', '.']) : p.Climbs := by
  rw [eq_of_literalText h]
  exact ⟨rfl, .char rfl (.char rfl .done)⟩

/-- Only a component that begins with a dot leads up. -/
theorem Reads.begins_of_climbs {before : Option Char} {text : List Char} {p : Pattern}
    (h : Reads before text p) (climbs : p.Climbs) : text.head? = some '.' := by
  have first := climbs.1
  cases h with
  | literal =>
    obtain rfl := Token.literal.inj (Option.some.inj first)
    rfl
  | set found =>
    exact absurd (Option.some.inj first) ((readSet_eq_some found).2 '.')
  | _ => cases first

/-- An escaped text leads up only if it is two dots. -/
theorem climbs_quote {text : List Char} (h : (quote text).Climbs) : text = ['.', '.'] :=
  (quote_matches.mp h.2).symm

end Pattern

/-! ## Paths without dots -/

namespace Path

/-- A path is spelled without dots, or as a dot alone; and it is absolute or not. -/
structure IsClear (absolute : Bool) (path : String) : Prop where
  nonempty : path ≠ ""
  origin : isAbsolute path = absolute
  spelled : components path = [.here] ∨ IsPlain path

variable {absolute : Bool} {path name : String}

theorem leading_of_isSolid (solid : isSolid name = true) (up : name ≠ "..") :
    leading name = .name name := by
  obtain ⟨named, dot⟩ := not_or.mp (of_decide_eq_true solid)
  rw [leading, if_neg named, if_neg dot, if_neg up]

/-- A part that is joined to a path adds its name, or nothing. -/
theorem IsClear.join (h : IsClear absolute path) (plain : IsPlain path ∨ isSolid name = false)
    (noSlash : '/' ∉ name.toList) (up : name ≠ "..") :
    IsClear absolute (Path.join path name) := by
  have all := components_join_part h.nonempty noSlash
  refine ⟨?_, (isAbsolute_join path noSlash).trans h.origin, ?_⟩
  · intro empty
    rw [empty, components_empty] at all
    exact components_ne_nil h.nonempty (List.append_eq_nil_iff.mp all.symm).1
  · cases solid : isSolid name with
    | false =>
      rw [List.filter_cons, solid] at all
      have same : components (Path.join path name) = components path := by simpa using all
      rw [IsPlain, same]
      exact h.spelled
    | true =>
      have names := plain.resolve_right (by simp [solid])
      rw [List.filter_cons, solid] at all
      refine .inr ?_
      intro c mem
      rw [all] at mem
      rcases List.mem_append.mp mem with mem | mem
      · exact names c mem
      · obtain rfl : c = .name name := by
          simpa [leading_of_isSolid solid up] using mem
        exact ⟨Component.noConfusion, Component.noConfusion⟩

theorem isClear_of_noSlash (noSlash : '/' ∉ name.toList) (up : name ≠ "..")
    (nonempty : name ≠ "") : IsClear false name := by
  refine ⟨nonempty, isAbsolute_of_noSlash noSlash, ?_⟩
  have all := components_eq nonempty (parts_of_noSlash noSlash)
  rw [List.filter_nil, List.map_nil, leading, if_neg nonempty, if_neg up] at all
  by_cases dot : name = "."
  · exact .inl (by rw [all, if_pos dot])
  · refine .inr ?_
    intro c mem
    rw [all, if_neg dot] at mem
    obtain rfl := List.mem_singleton.mp mem
    exact ⟨Component.noConfusion, Component.noConfusion⟩

/-- So does a part that is followed in a search. -/
theorem IsClear.below (h : IsClear absolute path) (noSlash : '/' ∉ name.toList) (up : name ≠ "..")
    (nonempty : Tree.below path name ≠ "") : IsClear absolute (Tree.below path name) := by
  rw [Tree.below] at nonempty ⊢
  by_cases dot : components path = [.here]
  · rw [if_pos dot] at nonempty ⊢
    have relative : absolute = false := by
      rw [← h.origin, isAbsolute_eq, dot]
      rfl
    exact relative ▸ isClear_of_noSlash noSlash up nonempty
  · rw [if_neg dot]
    exact h.join (.inl (h.spelled.resolve_left dot)) noSlash up

end Path

/-! ## Searching -/

namespace Tree

variable {t : Tree} {path found : String} {absolute : Bool}

/-- The names that lead to the entries of a tree are names: they have no slashes, and they are not
empty and no dots. -/
def Named (t : Tree) : Prop :=
  ∀ e ∈ t.entries, ∀ name ∈ e.1, '/' ∉ name.toList ∧ Path.isSolid name = true ∧ name ≠ ".."

theorem Named.children (h : t.Named) {place : Place} {name : String}
    (mem : name ∈ t.children place) :
    '/' ∉ name.toList ∧ Path.isSolid name = true ∧ name ≠ ".." := by
  obtain ⟨⟨other, entry⟩, there, same⟩ := List.mem_filterMap.mp mem
  dsimp only at same
  split at same
  · next last ends =>
    obtain ⟨-, rfl⟩ : _ ∧ last = name := by simpa using same
    exact h _ there last (List.mem_of_getLast? ends)
  · cases same

theorem below_ne_empty {name : String} (named : name ≠ "") : below path name ≠ "" := by
  unfold below Path.join
  split
  · exact named
  split
  · exact named
  split <;> simp [named]

theorem isClear_of_mem_descend (named : t.Named) {depth : Nat} {name : String}
    (h : Path.IsClear absolute path) (mem : (name, found) ∈ t.descend depth path) :
    Path.IsClear absolute found := by
  induction depth generalizing path name with
  | zero => cases mem
  | succ depth ih =>
    rw [descend] at mem
    split at mem
    · cases mem
    split at mem
    · obtain ⟨child, there, mem⟩ := List.mem_flatMap.mp mem
      obtain ⟨noSlash, solid, up⟩ := named.children there
      have next := h.below noSlash up (below_ne_empty (Path.ne_empty_of_isSolid solid))
      rcases List.mem_cons.mp mem with same | mem
      · obtain ⟨rfl, rfl⟩ := Prod.mk.inj same
        exact next
      · exact ih next mem
    · cases mem

theorem isClear_of_mem_namesMatching (named : t.Named) {p : Pattern} (level : ¬ p.Climbs)
    (h : Path.IsClear absolute path) (mem : found ∈ t.namesMatching p path) :
    Path.IsClear absolute found := by
  rw [namesMatching] at mem
  rcases List.mem_append.mp mem with mem | mem
  · obtain ⟨⟨name, path'⟩, there, same⟩ := List.mem_filterMap.mp mem
    change (if p.matchesName name.toList then some path' else none) = some found at same
    split at same
    · obtain rfl := Option.some.inj same
      exact isClear_of_mem_descend named h there
    · cases same
  · split at mem
    · next begins =>
      obtain ⟨dots, either, same⟩ := List.mem_filterMap.mp mem
      split at same
      · next matched =>
        obtain rfl := Option.some.inj same
        rcases List.mem_cons.mp either with rfl | either
        · exact h.join (.inr rfl) (by decide) (by decide)
        · obtain rfl := List.mem_singleton.mp either
          exact absurd ⟨begins.1, Pattern.matchesName_iff.mp matched⟩ level
      · cases same
    · cases mem

/-- A part without wildcards leads on when something stands where it leads. -/
def leadsOn (t : Tree) (path part : String) : Bool :=
  if part = "." ∨ part = ".." then t.isDirectory path else (t.stat (below path part)).isOk

section expand
variable {onlyDirectories : Bool} {p : Pattern} {rest : List Pattern}

theorem expand_literal {text : List Char} (literal : p.literalText? = some text) :
    t.expand onlyDirectories (p :: rest) path =
      if t.leadsOn path (String.ofList text) then
        t.expand onlyDirectories rest (below path (String.ofList text))
      else [] := by
  rw [expand.eq_def]
  simp only [literal]
  rfl

theorem expand_recursive (wild : p.literalText? = none) (recursive : p.isRecursive = true) :
    t.expand onlyDirectories (p :: rest) path =
      match rest with
      | [] => (t.descend t.depthBound path).filterMap fun (_, found) =>
          if t.isDirectory found then some found else none
      | following :: after =>
        (t.descend t.depthBound path).flatMap fun (name, found) =>
          if following.matchesName name.toList then t.expand onlyDirectories after found
          else [] := by
  rw [expand.eq_def]
  cases rest <;> simp only [wild, recursive, if_true]

theorem expand_names (wild : p.literalText? = none) (single : ¬ p.isRecursive = true) :
    t.expand onlyDirectories (p :: rest) path =
      (t.namesMatching p path).flatMap (t.expand onlyDirectories rest) := by
  rw [expand.eq_def]
  simp only [wild, if_neg single]

end expand

theorem below_ne_empty_of_leadsOn {part : String} (leads : t.leadsOn path part = true) :
    below path part ≠ "" := by
  by_cases empty : part = ""
  · intro none
    subst empty
    rw [leadsOn, if_neg (by decide), none] at leads
    cases leads
  · exact below_ne_empty empty

/-- What is found by following components that do not climb is spelled without dots. -/
theorem isClear_of_mem_expand (named : t.Named) {onlyDirectories : Bool} :
    ∀ {patterns : List Pattern} {path : String}, (∀ p ∈ patterns, ¬ p.Climbs) →
      (∀ p ∈ patterns, ∀ text, p.literalText? = some text → '/' ∉ text) →
      Path.IsClear absolute path → found ∈ t.expand onlyDirectories patterns path →
      Path.IsClear absolute found
  | [], path, _, _, h, mem => by
    rw [expand] at mem
    split at mem
    · cases mem
    · exact List.mem_singleton.mp mem ▸ h
  | p :: rest, path, level, noSlash, h, mem => by
    obtain ⟨first, others⟩ := List.forall_mem_cons.mp level
    obtain ⟨noSlash₁, noSlash₂⟩ := List.forall_mem_cons.mp noSlash
    cases literal : p.literalText? with
    | some text =>
      have up : String.ofList text ≠ ".." := by
        intro same
        have dots : text = ['.', '.'] := by
          rw [← String.toList_ofList (l := text), same]
          rfl
        exact first (Pattern.climbs_of_literalText (dots ▸ literal))
      rw [expand_literal literal] at mem
      split at mem
      · next leads =>
        refine isClear_of_mem_expand named others noSlash₂ (h.below ?_ up ?_) mem
        · simpa using noSlash₁ text literal
        · exact below_ne_empty_of_leadsOn leads
      · cases mem
    | none =>
      by_cases recursive : p.isRecursive = true
      · rw [expand_recursive literal recursive] at mem
        cases rest with
        | nil =>
          obtain ⟨⟨name, path'⟩, there, same⟩ := List.mem_filterMap.mp mem
          change (if t.isDirectory path' then some path' else none) = some found at same
          split at same
          · obtain rfl := Option.some.inj same
            exact isClear_of_mem_descend named h there
          · cases same
        | cons following after =>
          obtain ⟨⟨name, path'⟩, there, mem⟩ := List.mem_flatMap.mp mem
          change found ∈ if following.matchesName name.toList then
            t.expand onlyDirectories after path' else [] at mem
          split at mem
          · exact isClear_of_mem_expand named (List.forall_mem_cons.mp others).2
              (List.forall_mem_cons.mp noSlash₂).2 (isClear_of_mem_descend named h there) mem
          · cases mem
      · rw [expand_names literal recursive] at mem
        obtain ⟨path', there, mem⟩ := List.mem_flatMap.mp mem
        exact isClear_of_mem_expand named others noSlash₂
          (isClear_of_mem_namesMatching named first h there) mem

theorem mem_of_mem_collapse {patterns : List Pattern} {p : Pattern} (h : p ∈ collapse patterns) :
    p ∈ patterns := by
  induction patterns with
  | nil => cases h
  | cons first rest ih =>
    rw [collapse] at h
    split at h
    · exact List.mem_singleton.mp h ▸ List.mem_cons_self
    · next following after kept =>
      rw [kept] at ih
      split at h
      · exact List.mem_cons_of_mem _ (ih h)
      · rcases List.mem_cons.mp h with rfl | h
        · exact List.mem_cons_self
        · exact List.mem_cons_of_mem _ (ih h)

/-- A search whose pattern does not climb finds paths that are spelled without dots. -/
theorem isClear_of_search (named : t.Named) {pattern : String} {paths : List String}
    (level : ∀ part ∈ pattern.toList.splitOn '/', ∀ p, Pattern.Reads none part p → ¬ p.Climbs)
    (searched : t.search pattern = .ok paths) (mem : found ∈ paths) :
    Path.IsClear (Path.isAbsolute pattern) found := by
  obtain ⟨-, components, reads, rfl⟩ := search_eq_ok_iff.mp searched
  have start : Path.IsClear (Path.isAbsolute pattern) (searchStart pattern) := by
    unfold searchStart
    cases Path.isAbsolute pattern with
    | true => exact ⟨by decide, rfl, .inr (by unfold Path.IsPlain; decide)⟩
    | false => exact ⟨by decide, rfl, .inl (by decide)⟩
  have read : ∀ p ∈ collapse components, ∃ part ∈ pattern.toList.splitOn '/',
      Pattern.Reads none part p := by
    intro p mem
    obtain ⟨part, there, reads⟩ := exists_of_mem_results reads (mem_of_mem_collapse mem)
    exact ⟨part, mem_searchParts.1 there, reads⟩
  refine isClear_of_mem_expand named ?_ ?_ start (mem_sorted.mp mem)
  · intro p mem
    obtain ⟨part, there, reads⟩ := read p mem
    exact level part there p reads
  · intro p mem text literal
    obtain ⟨part, there, reads⟩ := read p mem
    rw [reads.literalText literal]
    exact Path.notMem_of_mem_splitOn part there

end Tree

end Assay.Files
