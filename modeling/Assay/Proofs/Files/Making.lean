import Assay.Proofs.Files.Components
import Assay.Proofs.Files.Writing

/-!
# Making directories

Making a directory with all those on the way to it changes a tree only by new directories, at places
where nothing stood, to which beginnings of the path lead. This holds whether or not the last of
them can be made.
-/

namespace Assay.Files

namespace Tree

variable {t u before middle after : Tree} {path : String} {place : Place}

/-! ## Walking along components -/

/-- The place that the first `count` components of a path lead to. -/
def along (t : Tree) (path : String) (count : Nat) : Except FileError Place :=
  t.walk (t.origin path) (((Path.components path).take count).map componentText)

/-- The place that all components of a path lead to. The empty path leads to where paths begin. -/
def destination (t : Tree) (path : String) : Except FileError Place :=
  t.along path (Path.components path).length

/-- A step to a part that names nothing stays where it is. -/
theorem step_not_isSolid {next : Place} {part : String} (blank : Path.isSolid part = false)
    (stepped : t.step place part = .ok next) : next = place := by
  have same : part = "" ∨ part = "." := Classical.not_not.mp (of_decide_eq_false blank)
  unfold step at stepped
  split at stepped
  · rw [if_pos same] at stepped
    exact (Except.ok.inj stepped).symm
  · cases stepped
  · cases stepped

/-- Parts that name nothing can be left out of a walk. -/
theorem walk_filter {last : Place} {parts : List String} (walked : t.walk place parts = .ok last) :
    t.walk place (parts.filter Path.isSolid) = .ok last := by
  induction parts generalizing place with
  | nil => exact walked
  | cons part rest ih =>
    obtain ⟨next, stepped, later⟩ := walk_cons_eq_ok_iff.mp walked
    have others := ih later
    cases solid : Path.isSolid part with
    | false =>
      rw [List.filter_cons, solid, ← step_not_isSolid solid stepped]
      exact others
    | true =>
      rw [List.filter_cons, solid]
      exact walk_cons_eq_ok_iff.mpr ⟨next, stepped, others⟩

theorem walk_cons_filter {last : Place} {first : String} {rest : List String}
    (walked : t.walk place (first :: rest) = .ok last) :
    t.walk place (first :: rest.filter Path.isSolid) = .ok last := by
  obtain ⟨next, stepped, later⟩ := walk_cons_eq_ok_iff.mp walked
  exact walk_cons_eq_ok_iff.mpr ⟨next, stepped, walk_filter later⟩

theorem destination_eq (t : Tree) (path : String) :
    t.destination path =
      t.walk (t.origin path) ((Path.components path).map componentText) := by
  rw [destination, along, List.take_length]

/-- Where the parts of a path lead its components lead. -/
theorem destination_of_walk (walked : t.walk (t.origin path) (Path.parts path) = .ok place) :
    t.destination path = .ok place := by
  rw [destination_eq]
  by_cases empty : path = ""
  · subst empty
    exact walk_filter walked
  · obtain ⟨first, rest, split⟩ := List.exists_cons_of_ne_nil (Path.parts_ne_nil path)
    rw [Path.map_componentText empty split]
    exact walk_cons_filter (split ▸ walked)

/-- The parts that a joined path comes after lead where the path leads. -/
theorem destination_of_front (walked : t.walk (t.origin path) (Path.front path) = .ok place) :
    t.destination path = .ok place := by
  rw [destination_eq]
  by_cases empty : path = ""
  · subst empty
    exact walked
  · obtain ⟨first, rest, begins⟩ := List.exists_cons_of_ne_nil (Path.front_ne_nil empty)
    rw [Path.map_componentText_of_front empty begins]
    exact walk_cons_filter (begins ▸ walked)

/-- A name that is joined to a directory leads to an entry of the place that the directory leads
to. -/
theorem destination_join {directory name : String} (noSlash : '/' ∉ name.toList)
    (solid : Path.isSolid name = true) (up : name ≠ "..")
    (leads : t.destination (Path.join directory name) = .ok place) :
    ∃ base, t.destination directory = .ok base ∧ place = base ++ [name] := by
  have origin : t.origin (Path.join directory name) = t.origin directory := by
    rw [Tree.origin, Tree.origin, Path.isAbsolute_join _ noSlash]
  rw [Tree.destination_eq, origin, Path.components_join directory noSlash solid,
    List.map_append] at leads
  obtain ⟨base, reached, stepped⟩ := walk_append_eq_ok_iff.mp leads
  rw [← Tree.destination_eq] at reached
  rw [List.map_singleton, Path.componentText_leading, walk_single] at stepped
  exact ⟨base, reached, Tree.step_name ⟨of_decide_eq_true solid, up⟩ stepped⟩

/-- A slot under a name that is joined to a directory is in the place that the directory leads
to. -/
theorem slot_join {directory name : String} (noSlash : '/' ∉ name.toList)
    (slot : t.slot (Path.join directory name) = .ok place) :
    ∃ base, t.destination directory = .ok base ∧ place = base ++ [name] := by
  obtain ⟨targeted, -⟩ := slot_eq_ok_iff.mp slot
  obtain ⟨-, front, last, parent, parts, walked, -, -, -, rfl⟩ := target_eq_ok_iff.mp targeted
  rw [Path.parts_join _ noSlash] at parts
  obtain ⟨rfl, same⟩ := List.append_inj' parts rfl
  obtain rfl : name = last := by simpa using same
  rw [Tree.origin, Path.isAbsolute_join _ noSlash] at walked
  exact ⟨parent, destination_of_front walked, rfl⟩

theorem Extends.along {count : Nat} (h : t.Extends u) (walked : t.along path count = .ok place) :
    u.along path count = .ok place := by
  rw [Tree.along] at walked ⊢
  rw [h.origin]
  exact h.walk walked

theorem Extends.refl (t : Tree) : t.Extends t := ⟨rfl, id, id⟩

theorem Extends.trans (h : before.Extends middle) (h' : middle.Extends after) :
    before.Extends after where
  here := h'.here.trans h.here
  directory found := h'.directory (h.directory found)
  present found := h'.present (h.present found)

/-! ## One directory -/

/-- What was put at the target of a path is where the path leads. -/
theorem walk_put_target (entry : Entry) (targeted : t.target path = .ok (some place))
    (free : t.look place = none) :
    (t.put place entry).walk ((t.put place entry).origin path) (Path.parts path) = .ok place := by
  obtain ⟨-, front, last, parent, parts, walked, directory, name, short, rfl⟩ :=
    target_eq_ok_iff.mp targeted
  have clear : t.look (parent ++ [last]) ≠ some .directory := by
    rw [free]
    exact (Option.some_ne_none _).symm
  have grown := Extends.put entry clear
  have stepped : (t.put (parent ++ [last]) entry).step parent last = .ok (parent ++ [last]) := by
    rw [not_or, not_or] at name
    simp [step, grown.directory directory, name, look_put_self clear, Nat.not_lt.mpr short]
  rw [grown.origin, parts, walk_append, grown.walk walked]
  show (t.put (parent ++ [last]) entry).walk parent [last] = _
  rw [walk, stepped]
  rfl

theorem makeDirectory_eq_ok (h : t.makeDirectory path = .ok after) :
    pathFault? path = none ∧ ∃ place, t.target (trimSlashes path) = .ok (some place) ∧
      t.look place = none ∧ after = t.put place .directory := by
  unfold makeDirectory at h
  split at h
  · cases h
  · next fits =>
    refine ⟨fits, ?_⟩
    cases targeted : t.target (trimSlashes path) with
    | error e => rw [targeted] at h; cases h
    | ok slot =>
      rw [targeted] at h
      cases slot with
      | none => cases h
      | some place =>
        cases found : t.look place with
        | some entry => simp [bind, Except.bind, found] at h
        | none =>
          simp only [bind, Except.bind, found] at h
          exact ⟨place, rfl, found, (Except.ok.inj h).symm⟩

/-- Slashes at the end of a text add no components to it. -/
theorem components_append_slashes {chars slashes : List Char} (nonempty : chars ≠ [])
    (all : ∀ c ∈ slashes, c = '/') :
    Path.components (String.ofList (chars ++ slashes)) =
      Path.components (String.ofList chars) := by
  induction slashes generalizing chars with
  | nil => rw [List.append_nil]
  | cons c rest ih =>
    obtain ⟨rfl, others⟩ := List.forall_mem_cons.mp all
    have moved : chars ++ '/' :: rest = chars ++ ['/'] ++ rest := by simp
    have one : String.ofList (chars ++ ['/']) = String.ofList chars ++ "/" := by
      apply String.toList_injective
      simp
    rw [moved, ih (by simp) others, one]
    exact Path.components_append_slash (by simpa using nonempty)

theorem components_trimSlashes (path : String) :
    Path.components (trimSlashes path) = Path.components path := by
  have whole : path.toList = (path.toList.reverse.dropWhile (· == '/')).reverse ++
      (path.toList.reverse.takeWhile (· == '/')).reverse := by
    rw [← List.reverse_append, List.takeWhile_append_dropWhile, List.reverse_reverse]
  have slashes : ∀ c ∈ (path.toList.reverse.takeWhile (· == '/')).reverse, c = '/' := by
    intro c mem
    have slash := List.all_eq_true.mp List.all_takeWhile c (List.mem_reverse.mp mem)
    exact eq_of_beq slash
  unfold trimSlashes
  generalize (path.toList.reverse.takeWhile (· == '/')).reverse = tail at whole slashes
  generalize (path.toList.reverse.dropWhile (· == '/')).reverse = kept at whole
  have text : path = String.ofList (kept ++ tail) := by rw [← whole, String.ofList_toList]
  cases kept with
  | cons c cs =>
    rw [text]
    exact (components_append_slashes (List.cons_ne_nil c cs) slashes).symm
  | nil =>
    dsimp only
    split
    · next empty => rw [empty]
    · next nonempty =>
      cases tail with
      | nil => exact absurd text nonempty
      | cons c cs =>
        obtain ⟨rfl, others⟩ := List.forall_mem_cons.mp slashes
        rw [text]
        exact (components_append_slashes (List.cons_ne_nil '/' []) others).symm

theorem destination_trimSlashes (t : Tree) (path : String) :
    t.destination (trimSlashes path) = t.destination path := by
  have origin : t.origin (trimSlashes path) = t.origin path := by
    rw [Tree.origin, Tree.origin, Path.isAbsolute_eq, Path.isAbsolute_eq,
      components_trimSlashes]
  rw [destination_eq, destination_eq, components_trimSlashes, origin]

theorem along_beginning {count : Nat} (some : Path.beginning path count ≠ "") (n : Nat) :
    t.along (Path.beginning path count) n = t.along path (min n count) := by
  have origin : t.origin (Path.beginning path count) = t.origin path := by
    rw [Tree.origin, Tree.origin, Path.isAbsolute_beginning some]
  rw [along, along, origin, Path.components_beginning some, List.take_take]

/-! ## Directories on the way -/

/-- What may have been made of a tree: new directories where beginnings of a path lead. -/
structure Made (path : String) (before after : Tree) : Prop where
  grown : before.Extends after
  fate : ∀ place, after.look place = before.look place ∨
    before.look place = none ∧ after.look place = some .directory ∧
      ∃ count, after.along path count = .ok place

namespace Made

theorem refl (path : String) (t : Tree) : Made path t t :=
  ⟨.refl t, fun _ => .inl rfl⟩

theorem trans (h : Made path before middle) (h' : Made path middle after) :
    Made path before after where
  grown := h.grown.trans h'.grown
  fate place := by
    rcases h.fate place with same | ⟨free, made, count, leads⟩
    · rw [← same]
      exact h'.fate place
    · exact .inr ⟨free, h'.grown.directory made, count, h'.grown.along leads⟩

/-- What is made on the way to a beginning of a path is made on the way to the path. -/
theorem of_beginning {count : Nat} (some : Path.beginning path count ≠ "")
    (h : Made (Path.beginning path count) before after) : Made path before after where
  grown := h.grown
  fate place := by
    rcases h.fate place with same | ⟨free, made, n, leads⟩
    · exact .inl same
    · exact .inr ⟨free, made, min n count, along_beginning some n ▸ leads⟩

end Made

theorem made_ensureDirectory (t : Tree) (path : String) :
    Made path t (t.ensureDirectory path).2 := by
  unfold ensureDirectory
  cases made : t.makeDirectory path with
  | error e => exact .refl path t
  | ok after =>
    obtain ⟨-, place, targeted, free, rfl⟩ := makeDirectory_eq_ok made
    have clear : t.look place ≠ some .directory := by
      rw [free]
      exact (Option.some_ne_none _).symm
    refine ⟨.put _ clear, fun other => ?_⟩
    by_cases same : other = place
    · subst same
      have leads := destination_of_walk (walk_put_target .directory targeted free)
      rw [destination_trimSlashes] at leads
      exact .inr ⟨free, look_put_self clear, (Path.components path).length, leads⟩
    · exact .inl (look_put_of_ne same)

/-- Making the directory of the empty path changes nothing. -/
theorem ensureDirectory_empty (t : Tree) : (t.ensureDirectory "").2 = t := rfl

theorem made_ensureDirectory_beginning (t : Tree) (path : String) (count : Nat) :
    Made path t (t.ensureDirectory (Path.beginning path count)).2 := by
  by_cases none : Path.beginning path count = ""
  · rw [none, ensureDirectory_empty]
    exact .refl path t
  · exact .of_beginning none (made_ensureDirectory t _)

theorem made_ensureFirst (t : Tree) (path : String) (count : Nat) :
    Made path t (t.ensureFirst (Path.components path) count).2 := by
  induction count generalizing t with
  | zero => exact .refl path t
  | succ count ih =>
    have direct := made_ensureDirectory_beginning t path (count + 1)
    rw [ensureFirst]
    split
    · have before := ih t
      split
      · next middle first =>
        rw [first] at before
        exact before.trans (made_ensureDirectory_beginning middle path (count + 1))
      · exact before
    · exact direct

/-- **What making directories does to a tree**, whether or not they can all be made. -/
theorem made_makeDirectories (t : Tree) (path : String) :
    Made path t (t.makeDirectories path).2 := by
  unfold makeDirectories
  split
  · exact .refl path t
  · split
    · have before := made_ensureFirst t path ((Path.components path).length - 1)
      dsimp only
      split
      · next middle first =>
        rw [first] at before
        exact before.trans (made_ensureDirectory middle path)
      · exact before
    · exact made_ensureDirectory t path

end Tree

end Assay.Files
