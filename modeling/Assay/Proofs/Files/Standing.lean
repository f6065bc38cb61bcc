import Assay.Proofs.Files.Slots

/-!
# Directories that stand

Making directories is making sure that they stand: when it succeeds the path leads to a directory,
and when the path leads to a directory nothing is made. So making the directories of a path once more
changes nothing, in that tree or in any that extends it. Whatever is on the way to where a path leads
is a directory already.
-/

namespace Assay.Files.Tree

variable {t u v : Tree} {path : String} {base place : Place}

/-! ## Leading to a directory -/

/-- A path leads to a directory if it can be looked up and its components lead to one. -/
theorem isDirectory_iff_destination : t.isDirectory path = true ↔ pathFault? path = none ∧
    ∃ place, t.destination path = .ok place ∧ t.look place = some .directory := by
  rw [isDirectory_iff]
  constructor
  · rintro ⟨place, resolved, standing⟩
    obtain ⟨fits, walked⟩ := resolve_eq_ok_iff.mp resolved
    exact ⟨fits, place, destination_of_walk walked, standing⟩
  · rintro ⟨fits, place, leads, standing⟩
    have nonempty := (pathFault?_eq_none_iff.mp fits).1
    exact ⟨place, resolve_eq_ok_iff.mpr ⟨fits, walk_parts_of_destination nonempty leads standing⟩,
      standing⟩

theorem Extends.isDirectory (h : t.Extends u) (standing : t.isDirectory path = true) :
    u.isDirectory path = true := by
  obtain ⟨fits, place, leads, found⟩ := isDirectory_iff_destination.mp standing
  exact isDirectory_iff_destination.mpr ⟨fits, place, h.along leads, h.directory found⟩

/-- If a path leads somewhere then every place on the way to it is a directory, and the way is the
same in a larger tree. -/
theorem look_of_along {count : Nat} (whole : t.destination path = .ok base) (grown : t.Extends u)
    (leads : u.along path count = .ok place) : place = base ∨ t.look place = some .directory := by
  rw [destination_eq, ← List.take_append_drop count (Path.components path), List.map_append] at whole
  obtain ⟨middle, first, rest⟩ := walk_append_eq_ok_iff.mp whole
  obtain rfl : middle = place := Except.ok.inj ((grown.along first).symm.trans leads)
  cases remaining : ((Path.components path).drop count).map componentText with
  | nil =>
    rw [remaining] at rest
    exact .inl (Except.ok.inj rest)
  | cons part parts =>
    rw [remaining] at rest
    obtain ⟨next, stepped, -⟩ := walk_cons_eq_ok_iff.mp rest
    exact .inr (look_of_step stepped)

/-! ## Making them once more -/

theorem ensureDirectory_of_isDirectory (standing : t.isDirectory path = true) :
    t.ensureDirectory path = (none, t) := by
  unfold ensureDirectory
  cases made : t.makeDirectory path with
  | error e =>
    dsimp only
    rw [if_pos standing]
  | ok after =>
    -- a directory is made only where nothing is, and the path leads there afterwards
    obtain ⟨-, place, targeted, free, -⟩ := makeDirectory_eq_ok made
    obtain ⟨-, old, leads, found⟩ := isDirectory_iff_destination.mp standing
    have clear : t.look place ≠ some .directory := by
      rw [free]
      exact (Option.some_ne_none _).symm
    have still := (Extends.put .directory clear).along leads
    have new := destination_of_walk (walk_put_target .directory targeted free)
    rw [destination_trimSlashes] at new
    obtain rfl : old = place := Except.ok.inj (still.symm.trans new)
    exact absurd found clear

/-- Making directories that stand changes nothing. -/
theorem makeDirectories_of_isDirectory (standing : t.isDirectory path = true) :
    t.makeDirectories path = (none, t) := by
  unfold makeDirectories
  split
  · rfl
  · rw [ensureDirectory_of_isDirectory standing]

theorem isDirectory_of_ensureDirectory (h : t.ensureDirectory path = (none, u)) :
    u.isDirectory path = true := by
  unfold ensureDirectory at h
  cases made : t.makeDirectory path with
  | error e =>
    rw [made] at h
    dsimp only at h
    split at h
    · next standing =>
      obtain rfl : t = u := (Prod.mk.inj h).2
      exact standing
    · cases h
  | ok after =>
    rw [made] at h
    obtain rfl : after = u := (Prod.mk.inj h).2
    obtain ⟨fits, place, targeted, free, rfl⟩ := makeDirectory_eq_ok made
    have clear : t.look place ≠ some .directory := by
      rw [free]
      exact (Option.some_ne_none _).symm
    refine isDirectory_iff_destination.mpr ⟨fits, place, ?_, look_put_self clear⟩
    rw [← destination_trimSlashes]
    exact destination_of_walk (walk_put_target .directory targeted free)

/-- Directories that could be made stand. -/
theorem isDirectory_of_makeDirectories (made : t.makeDirectories path = (none, u))
    (nonempty : path ≠ "") : u.isDirectory path = true := by
  unfold makeDirectories at made
  rw [if_neg nonempty] at made
  split at made
  · dsimp only at made
    split at made
    · exact isDirectory_of_ensureDirectory made
    · next failed =>
      exact absurd (by rw [made]) (failed u)
  · exact isDirectory_of_ensureDirectory made

/-- Making directories once more, in the tree or in one that extends it, changes nothing. -/
theorem makeDirectories_again (made : t.makeDirectories path = (none, u))
    (grown : u.Extends v) : v.makeDirectories path = (none, v) := by
  by_cases empty : path = ""
  · rw [empty]
    rfl
  · exact makeDirectories_of_isDirectory
      (grown.isDirectory (isDirectory_of_makeDirectories made empty))

/-- The path of directories that could be made leads somewhere. -/
theorem destination_of_makeDirectories (made : t.makeDirectories path = (none, u)) :
    ∃ base, u.destination path = .ok base := by
  by_cases empty : path = ""
  · rw [empty]
    exact ⟨_, rfl⟩
  · obtain ⟨-, base, leads, -⟩ :=
      isDirectory_iff_destination.mp (isDirectory_of_makeDirectories made empty)
    exact ⟨base, leads⟩

end Assay.Files.Tree
