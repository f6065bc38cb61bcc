import Assay.Proofs.FirstFailure
import Assay.Proofs.Files.Searching

/-!
# Paths that a search has come to

A search that follows the parts of a path goes where the parts lead, step by step. The path under
which it has come to a place may be spelled otherwise than the parts, but it leads to the same
place, as long as it is not empty.
-/

namespace Assay.Files

namespace Tree

/-! ## Sound trees -/

/-- A tree that file systems can hold: its names are names and not too long, what lies in something
lies in a directory, and the current directory is there. -/
structure Sound (t : Tree) : Prop where
  named : t.Named
  short : ∀ e ∈ t.entries, ∀ name ∈ e.1, name.utf8ByteSize ≤ maxNameBytes
  nested : ∀ e ∈ t.entries, t.look e.1.dropLast = some .directory
  standing : t.Standing

variable {t : Tree} {path part name found : String} {place next last : Place}

theorem exists_mem_of_look (present : (t.look (place ++ [name])).isSome = true) :
    ∃ entry, (place ++ [name], entry) ∈ t.entries := by
  rw [look, if_neg (by simp)] at present
  obtain ⟨entry, found⟩ := Option.isSome_iff_exists.mp present
  obtain ⟨front, back, all, -⟩ := List.lookup_eq_some_iff.mp found
  exact ⟨entry, all ▸ List.mem_append_right _ List.mem_cons_self⟩

/-- The names in a directory are those under which something stands there. -/
theorem mem_children_iff : name ∈ t.children place ↔ (t.look (place ++ [name])).isSome = true := by
  constructor
  · intro mem
    obtain ⟨⟨other, entry⟩, there, same⟩ := List.mem_filterMap.mp mem
    dsimp only at same
    split at same
    · next child ends =>
      obtain ⟨rfl, rfl⟩ : other.dropLast = place ∧ child = name := by simpa using same
      obtain ⟨init, rfl⟩ := List.getLast?_eq_some_iff.mp ends
      rw [List.dropLast_concat, look, if_neg (by simp), List.lookup_isSome_iff]
      exact ⟨_, there, beq_self_eq_true _⟩
    · cases same
  · intro present
    obtain ⟨entry, there⟩ := exists_mem_of_look present
    refine List.mem_filterMap.mpr ⟨_, there, ?_⟩
    simp

namespace Sound

/-- What something lies in is a directory. -/
theorem look_parent (sound : t.Sound) (present : (t.look (place ++ [name])).isSome = true) :
    t.look place = some .directory := by
  obtain ⟨entry, there⟩ := exists_mem_of_look present
  simpa using sound.nested _ there

/-- The name of what lies in a directory is a name. -/
theorem name_of_look (sound : t.Sound) (present : (t.look (place ++ [name])).isSome = true) :
    '/' ∉ name.toList ∧ Path.isSolid name = true ∧ name ≠ ".." := by
  obtain ⟨entry, there⟩ := exists_mem_of_look present
  exact sound.named _ there name (by simp)

/-- From a directory one can step to whatever lies in it. -/
theorem step_name (sound : t.Sound) (present : (t.look (place ++ [name])).isSome = true) :
    t.step place name = .ok (place ++ [name]) := by
  obtain ⟨entry, there⟩ := exists_mem_of_look present
  obtain ⟨-, solid, up⟩ := sound.name_of_look present
  have short : ¬ maxNameBytes < name.utf8ByteSize :=
    Nat.not_lt.mpr (sound.short _ there name (by simp))
  rw [step, sound.look_parent present]
  simp only [if_neg (of_decide_eq_true solid), if_neg up, if_neg short, if_pos present]

end Sound

/-! ## Walking to directories -/

theorem look_of_walk {parts : List String} (walked : t.walk place parts = .ok last)
    (directory : t.look last = some .directory) : t.look place = some .directory := by
  cases parts with
  | nil => exact Except.ok.inj walked ▸ directory
  | cons part rest =>
    obtain ⟨next, stepped, -⟩ := walk_cons_eq_ok_iff.mp walked
    exact look_of_step stepped

theorem step_of_not_isSolid (directory : t.look place = some .directory)
    (blank : Path.isSolid part = false) : t.step place part = .ok place := by
  have same : part = "" ∨ part = "." := Classical.not_not.mp (of_decide_eq_false blank)
  rw [step, directory]
  exact if_pos same

/-- A walk that ends in a directory may as well pass through parts that name nothing. -/
theorem walk_of_filter {parts : List String}
    (walked : t.walk place (parts.filter Path.isSolid) = .ok last)
    (directory : t.look last = some .directory) : t.walk place parts = .ok last := by
  induction parts generalizing place with
  | nil => exact walked
  | cons part rest ih =>
    apply walk_cons_eq_ok_iff.mpr
    cases solid : Path.isSolid part with
    | false =>
      rw [List.filter_cons, solid] at walked
      -- such a part stays where it is, in a directory since the rest leads on from there
      exact ⟨place, step_of_not_isSolid (look_of_walk walked directory) solid, ih walked⟩
    | true =>
      rw [List.filter_cons, solid] at walked
      obtain ⟨next, stepped, later⟩ := walk_cons_eq_ok_iff.mp walked
      exact ⟨next, stepped, ih later⟩

theorem walk_of_cons_filter {first : String} {rest : List String}
    (walked : t.walk place (first :: rest.filter Path.isSolid) = .ok last)
    (directory : t.look last = some .directory) : t.walk place (first :: rest) = .ok last := by
  obtain ⟨next, stepped, later⟩ := walk_cons_eq_ok_iff.mp walked
  exact walk_cons_eq_ok_iff.mpr ⟨next, stepped, walk_of_filter later directory⟩

/-- Where the components of a path lead, if to a directory, its parts lead. -/
theorem walk_parts_of_destination (nonempty : path ≠ "") (leads : t.destination path = .ok place)
    (directory : t.look place = some .directory) :
    t.walk (t.origin path) (Path.parts path) = .ok place := by
  obtain ⟨first, rest, split⟩ := List.exists_cons_of_ne_nil (Path.parts_ne_nil path)
  rw [destination_eq, Path.map_componentText nonempty split] at leads
  exact split ▸ walk_of_cons_filter leads directory

theorem walk_front_of_destination (nonempty : path ≠ "") (leads : t.destination path = .ok place)
    (directory : t.look place = some .directory) :
    t.walk (t.origin path) (Path.front path) = .ok place := by
  obtain ⟨first, rest, begins⟩ := List.exists_cons_of_ne_nil (Path.front_ne_nil nonempty)
  rw [destination_eq, Path.map_componentText_of_front nonempty begins] at leads
  exact begins ▸ walk_of_cons_filter leads directory

/-! ## Paths in a search -/

/-- A search that has come to a place has a path that leads there. It begins at a single dot, and
only there is the path a dot. -/
structure At (t : Tree) (path : String) (place : Place) : Prop where
  nonempty : path ≠ ""
  leads : t.destination path = .ok place
  start : Path.components path = [.here] → path = "."

theorem at_here (standing : t.Standing) : t.At "." t.here where
  nonempty := by decide
  leads := by
    have here : t.look t.here = some .directory := by
      simpa using standing t.here.length
    have dot : Path.components "." = [.here] := by decide
    rw [destination_eq, dot]
    show t.walk t.here ["."] = _
    rw [walk_single, step_of_not_isSolid here (by decide)]
  start _ := rfl

theorem at_root (t : Tree) : t.At "/" [] where
  nonempty := by decide
  leads := by
    have slash : Path.components "/" = [.root] := by decide
    rw [destination_eq, slash]
    show t.walk [] [""] = _
    rw [walk_single, step_of_not_isSolid (by rw [look, if_pos rfl]) (by decide)]
  start same := by
    revert same
    decide

/-- The first step from a path that is more than a dot keeps what it is. -/
theorem At.here_or (h : t.At path place) :
    path = "." ∧ place = t.here ∨ Path.components path ≠ [.here] := by
  by_cases dot : Path.components path = [.here]
  · have begins := h.start dot
    subst begins
    have leads := h.leads
    rw [destination_eq, dot] at leads
    have stepped : t.step t.here "." = .ok place := walk_single t _ _ ▸ leads
    exact .inl ⟨rfl, step_not_isSolid (by decide) stepped⟩
  · exact .inr dot

theorem below_of_ne_here (h : Path.components path ≠ [.here]) (part : String) :
    below path part = Path.join path part :=
  if_neg h

theorem below_dot (part : String) : below "." part = part :=
  if_pos (by decide)

/-- From a directory a part that is followed leads where a step leads, or fails as the step does. -/
theorem At.walk_below (h : t.At path place) (noSlash : '/' ∉ part.toList)
    (directory : t.look place = some .directory) :
    t.walk (t.origin (below path part)) (Path.parts (below path part)) = t.step place part := by
  rcases h.here_or with ⟨rfl, rfl⟩ | other
  · rw [below_dot, Path.parts_of_noSlash noSlash, origin, Path.isAbsolute_of_noSlash noSlash]
    exact walk_single t t.here part
  · have origin : t.origin (Path.join path part) = t.origin path := by
      rw [Tree.origin, Tree.origin, Path.isAbsolute_join _ noSlash]
    rw [below_of_ne_here other, Path.parts_join _ noSlash, origin, walk_append,
      walk_front_of_destination h.nonempty h.leads directory]
    exact walk_single t place part

/-- A part that is followed leads a step further. -/
theorem At.walk_below_iff (h : t.At path place) (noSlash : '/' ∉ part.toList) :
    t.walk (t.origin (below path part)) (Path.parts (below path part)) = .ok next ↔
      t.step place part = .ok next := by
  constructor
  · intro walked
    have directory : t.look place = some .directory := by
      rcases h.here_or with ⟨rfl, rfl⟩ | other
      · rw [below_dot, Path.parts_of_noSlash noSlash, walk_single, origin,
          Path.isAbsolute_of_noSlash noSlash] at walked
        exact look_of_step walked
      · rw [below_of_ne_here other, Path.parts_join _ noSlash, origin,
          Path.isAbsolute_join _ noSlash, ← origin] at walked
        -- the parts before the last one lead where the path leads
        obtain ⟨middle, before, stepped⟩ := walk_append_eq_ok_iff.mp walked
        obtain rfl := Except.ok.inj ((destination_of_front before).symm.trans h.leads)
        exact look_of_step ((walk_single t middle part).symm.trans stepped)
    rw [← h.walk_below noSlash directory]
    exact walked
  · intro stepped
    rw [h.walk_below noSlash (look_of_step stepped)]
    exact stepped

/-- A path that is more than a dot does not become one. -/
theorem At.components_below (h : t.At path place) (other : Path.components path ≠ [.here])
    (noSlash : '/' ∉ part.toList) : Path.components (below path part) ≠ [.here] := by
  rw [below_of_ne_here other, Path.components_join_part h.nonempty noSlash]
  intro dot
  rcases List.append_eq_singleton_iff.mp dot with ⟨none, -⟩ | ⟨same, -⟩
  · exact Path.components_ne_nil h.nonempty none
  · exact other same

/-- The components that come before those of a part that is followed: a dot alone is left out. -/
def leadingTo (path : String) : List Component :=
  if Path.components path = [.here] then [] else Path.components path

/-- A name that is followed is one more component, and one more part. -/
theorem components_below_name (path : String) (noSlash : '/' ∉ name.toList)
    (solid : Path.isSolid name = true) (up : name ≠ "..") :
    Path.components (below path name) = leadingTo path ++ [.name name] ∧
      ∃ init, Path.parts (below path name) = init ++ [name] := by
  have alone := Path.leading_of_isSolid solid up
  by_cases dot : Path.components path = [.here]
  · rw [below, leadingTo, if_pos dot, if_pos dot, Path.parts_of_noSlash noSlash]
    rw [Path.components_eq (Path.ne_empty_of_isSolid solid) (Path.parts_of_noSlash noSlash), alone]
    exact ⟨rfl, [], rfl⟩
  · rw [below, leadingTo, if_neg dot, if_neg dot, Path.components_join path noSlash solid, alone]
    exact ⟨rfl, _, Path.parts_join path noSlash⟩

/-- The path of a step leads where the step leads. -/
theorem At.follow (h : t.At path place) (noSlash : '/' ∉ part.toList)
    (nonempty : below path part ≠ "") (stepped : t.step place part = .ok next) :
    t.At (below path part) next where
  nonempty := nonempty
  leads := destination_of_walk ((h.walk_below_iff noSlash).mpr stepped)
  start dot := by
    rcases h.here_or with ⟨rfl, -⟩ | other
    · rw [below_dot] at dot nonempty ⊢
      rw [Path.components_eq nonempty (Path.parts_of_noSlash noSlash)] at dot
      rw [← Path.componentText_leading part, (List.cons.inj dot).1]
      rfl
    · exact absurd dot (h.components_below other noSlash)

/-! ## Paths that can be looked up -/

/-- A path can be looked up in a tree if it is no longer than paths can be, and has no zero in
it. -/
theorem pathFault?_eq_none_iff : pathFault? path = none ↔
    path ≠ "" ∧ '\x00' ∉ path.toList ∧ path.utf8ByteSize ≤ maxPathBytes := by
  unfold pathFault?
  split
  · next empty => simp [empty]
  · next named =>
    split
    · next zero =>
      have mem : '\x00' ∈ path.toList := by simpa using zero
      simp [mem]
    · next clean =>
      have notMem : '\x00' ∉ path.toList := by simpa using clean
      split
      · next long => simp [Nat.not_le.mpr long]
      · next short => simp [named, notMem, Nat.not_lt.mp short]

/-- On the way to a path that can be looked up all paths can be. -/
theorem At.pathFault? (h : t.At path place) (noSlash : '/' ∉ part.toList)
    (fits : pathFault? (below path part) = none) : Tree.pathFault? path = none := by
  rcases h.here_or with ⟨rfl, -⟩ | other
  · decide
  · rw [below_of_ne_here other, Path.join,
      if_neg (by simp [Path.isAbsolute_of_noSlash noSlash, h.nonempty])] at fits
    obtain ⟨-, clean, short⟩ := pathFault?_eq_none_iff.mp fits
    refine pathFault?_eq_none_iff.mpr ⟨h.nonempty, ?_, ?_⟩
    · intro zero
      apply clean
      split <;> simp [zero]
    · refine Nat.le_trans ?_ short
      split <;> simp [String.utf8ByteSize_append, Nat.add_assoc]

theorem resolve_eq_ok_iff : t.resolve path = .ok place ↔
    pathFault? path = none ∧ t.walk (t.origin path) (Path.parts path) = .ok place := by
  rw [resolve]
  cases pathFault? path <;> simp

/-- A path that leads to a directory and can be looked up is resolved to it. -/
theorem At.resolve_iff (h : t.At path place) (directory : t.look last = some .directory) :
    t.resolve path = .ok last ↔ Tree.pathFault? path = none ∧ last = place := by
  rw [resolve_eq_ok_iff]
  refine and_congr_right fun _ => ?_
  constructor
  · intro walked
    exact Except.ok.inj ((destination_of_walk walked).symm.trans h.leads)
  · rintro rfl
    exact walk_parts_of_destination h.nonempty h.leads directory

theorem isDirectory_iff : t.isDirectory path = true ↔
    ∃ place, t.resolve path = .ok place ∧ t.look place = some .directory := by
  rw [← stat_eq_ok_iff, isDirectory]
  split <;> simp_all

theorem stat_isOk_iff : (t.stat path).isOk = true ↔
    ∃ place, t.resolve path = .ok place ∧ (t.look place).isSome = true := by
  simp only [isOk_iff_exists, stat_eq_ok_iff, Option.isSome_iff_exists]
  constructor
  · rintro ⟨entry, place, resolved, there⟩
    exact ⟨place, resolved, entry, there⟩
  · rintro ⟨place, resolved, entry, there⟩
    exact ⟨entry, place, resolved, there⟩

theorem At.isDirectory_iff (h : t.At path place) : t.isDirectory path = true ↔
    Tree.pathFault? path = none ∧ t.look place = some .directory := by
  rw [Tree.isDirectory_iff]
  constructor
  · rintro ⟨last, resolved, directory⟩
    obtain ⟨fits, rfl⟩ := (h.resolve_iff directory).mp resolved
    exact ⟨fits, directory⟩
  · rintro ⟨fits, directory⟩
    exact ⟨place, (h.resolve_iff directory).mpr ⟨fits, rfl⟩, directory⟩

theorem At.resolve_below_iff (h : t.At path place) (noSlash : '/' ∉ part.toList) :
    t.resolve (below path part) = .ok next ↔
      Tree.pathFault? (below path part) = none ∧ t.step place part = .ok next := by
  rw [resolve_eq_ok_iff, h.walk_below_iff noSlash]

end Tree

end Assay.Files
