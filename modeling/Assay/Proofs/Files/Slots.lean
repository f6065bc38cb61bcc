import Assay.Proofs.Files.Following

/-!
# Files of a directory

Under which circumstances a text file can be written into a directory under a name (`Writable`): the
directory is there, the path can be used, and no other directory has the name. What the file holds
does not matter, nor whether it is there. Main statements: just then the path has a slot, and this is
the entry of the name at the place where the directory leads; and the way to a directory passes
through the files of it only if it goes up again.
-/

namespace Assay.Files.Tree

/-- A text file can be written into a directory under a name. -/
structure Writable (t : Tree) (directory name : String) (base : Place) : Prop where
  leads : t.destination directory = .ok base
  standing : t.look base = some .directory
  usable : pathFault? (Path.join directory name) = none
  free : t.look (base ++ [name]) ≠ some .directory

variable {t : Tree} {directory name : String} {base place : Place}

/-- What is joined to a directory begins where the directory leads. The empty path leads to where
paths begin. -/
theorem walk_front (leads : t.destination directory = .ok base)
    (standing : t.look base = some .directory) :
    t.walk (t.origin directory) (Path.front directory) = .ok base := by
  by_cases empty : directory = ""
  · subst empty
    exact leads
  · exact walk_front_of_destination empty leads standing

/-- A text can be written under a name that is joined to a directory exactly if the directory is
writable for it. -/
theorem slot_join_eq_ok_iff (noSlash : '/' ∉ name.toList)
    (named : ¬ (name = "" ∨ name = "." ∨ name = "..")) (short : name.utf8ByteSize ≤ maxNameBytes) :
    t.slot (Path.join directory name) = .ok place ↔
      ∃ base, place = base ++ [name] ∧ t.Writable directory name base := by
  have origin : t.origin (Path.join directory name) = t.origin directory := by
    rw [Tree.origin, Tree.origin, Path.isAbsolute_join _ noSlash]
  rw [slot_eq_ok_iff, target_eq_ok_iff, Path.parts_join _ noSlash, origin]
  constructor
  · rintro ⟨⟨usable, front, last, base, parts, walked, standing, -, -, rfl⟩, free⟩
    obtain ⟨rfl, same⟩ := List.append_inj' parts rfl
    obtain rfl : name = last := by simpa using same
    exact ⟨base, rfl, destination_of_front walked, standing, usable, free⟩
  · rintro ⟨base, rfl, ready⟩
    exact ⟨⟨ready.usable, _, name, base, rfl, walk_front ready.leads ready.standing, ready.standing,
      named, short, rfl⟩, ready.free⟩

/-! ## Paths that do not go up -/

theorem prefix_of_step {next : Place} {part : String} (stays : part ≠ "..")
    (stepped : t.step place part = .ok next) : place <+: next := by
  cases solid : Path.isSolid part with
  | false =>
    exact step_not_isSolid solid stepped ▸ List.prefix_rfl
  | true =>
    rw [step_name ⟨of_decide_eq_true solid, stays⟩ stepped]
    exact List.prefix_append place [part]

theorem prefix_of_walk {last : Place} {parts : List String} (stays : ∀ part ∈ parts, part ≠ "..")
    (walked : t.walk place parts = .ok last) : place <+: last := by
  induction parts generalizing place with
  | nil =>
    exact Except.ok.inj walked ▸ List.prefix_rfl
  | cons part rest ih =>
    obtain ⟨first, others⟩ := List.forall_mem_cons.mp stays
    obtain ⟨next, stepped, later⟩ := walk_cons_eq_ok_iff.mp walked
    exact (prefix_of_step first stepped).trans (ih others later)

/-- Where a beginning of a path leads the rest of it goes on from, so a beginning that leads below
the place of the whole path is followed by a component that goes up. -/
theorem up_mem_of_along {path : String} {count : Nat} (whole : t.destination path = .ok base)
    (leads : t.along path count = .ok (base ++ [name])) : .up ∈ Path.components path := by
  apply Classical.byContradiction
  intro stays
  have texts : ∀ part ∈ ((Path.components path).drop count).map componentText, part ≠ ".." := by
    rintro part mem rfl
    obtain ⟨component, mem, dots⟩ := List.mem_map.mp mem
    exact stays (Path.up_mem_of_componentText (List.mem_of_mem_drop mem) dots)
  rw [destination_eq, ← List.take_append_drop count (Path.components path), List.map_append] at whole
  obtain ⟨middle, first, rest⟩ := walk_append_eq_ok_iff.mp whole
  obtain rfl := Except.ok.inj (first.symm.trans leads)
  have le := (prefix_of_walk texts rest).length_le
  rw [List.length_append, List.length_singleton] at le
  omega

end Assay.Files.Tree
