import Assay.Proofs.Files.Making

/-!
# The places of files

A path that leads to a file ends in a name, if the current directory is where it should be. A path
without dots leads to the place that its names spell; so of two such paths one leads into the place
of the other only if it begins with the other one.
-/

namespace Assay.Files

/-! ## Paths to files -/

namespace Tree

variable {t : Tree} {path : String} {place : Place}

/-- The current directory is there, and so are the directories it lies in. -/
def Standing (t : Tree) : Prop :=
  ∀ count, t.look (t.here.take count) = some .directory

/-- The directories that a place lies in are there. -/
def Reached (t : Tree) (place : Place) : Prop :=
  ∀ count < place.length, t.look (place.take count) = some .directory

theorem reached_origin (standing : t.Standing) (path : String) : t.Reached (t.origin path) := by
  unfold origin
  split
  · intro count short
    cases short
  · intro count _
    exact standing count

theorem Reached.dropLast (h : t.Reached place) : t.Reached place.dropLast := by
  intro count short
  rw [List.length_dropLast] at short
  rw [List.dropLast_eq_take, List.take_take, Nat.min_eq_left (Nat.le_of_lt short)]
  exact h count (by omega)

/-- Going up from a directory leads to a directory. -/
theorem Reached.look_dropLast (h : t.Reached place) (there : t.look place = some .directory) :
    t.look place.dropLast = some .directory := by
  cases place with
  | nil => exact there
  | cons name rest =>
    rw [List.dropLast_eq_take]
    exact h _ (by simp)

theorem Reached.step {next : Place} {part : String} (h : t.Reached place)
    (stepped : t.step place part = .ok next) : t.Reached next := by
  unfold Tree.step at stepped
  split at stepped
  · next there =>
    split at stepped
    · exact Except.ok.inj stepped ▸ h
    split at stepped
    · exact Except.ok.inj stepped ▸ h.dropLast
    split at stepped
    · cases stepped
    split at stepped
    · obtain rfl := Except.ok.inj stepped
      intro count short
      rw [List.length_append, List.length_singleton] at short
      rw [List.take_append_of_le_length (by omega)]
      rcases Nat.lt_or_ge count place.length with before | past
      · exact h count before
      · rwa [List.take_of_length_le past]
    · cases stepped
  · cases stepped
  · cases stepped

theorem Reached.walk {last : Place} {parts : List String} (h : t.Reached place)
    (walked : t.walk place parts = .ok last) : t.Reached last := by
  induction parts generalizing place with
  | nil => exact Except.ok.inj walked ▸ h
  | cons part rest ih =>
    obtain ⟨next, stepped, later⟩ := walk_cons_eq_ok_iff.mp walked
    exact ih (h.step stepped) later

theorem look_of_step {next : Place} {part : String} (stepped : t.step place part = .ok next) :
    t.look place = some .directory := by
  unfold step at stepped
  split at stepped
  · next there => exact there
  · cases stepped
  · cases stepped

theorem stat_eq_ok_iff {entry : Entry} : t.stat path = .ok entry ↔
    ∃ place, t.resolve path = .ok place ∧ t.look place = some entry := by
  rw [stat]
  cases t.resolve path with
  | error e => simp [bind, Except.bind]
  | ok place => cases found : t.look place <;> simp [bind, Except.bind, found]

/-- A path leads to a file when a file stands where it leads. -/
theorem isFile_iff : t.isFile path = true ↔
    ∃ place content, t.resolve path = .ok place ∧ t.look place = some (.file content) := by
  have file : t.isFile path = true ↔ ∃ content, t.stat path = .ok (.file content) := by
    rw [isFile]
    split <;> simp_all
  simp only [file, stat_eq_ok_iff]
  exact exists_comm

/-- The text of a file is what stands where its path leads. -/
theorem readText_eq_ok_iff {text : String} : t.readText path = .ok text ↔
    ∃ place, t.resolve path = .ok place ∧ t.look place = some (.file (.text text)) := by
  rw [← stat_eq_ok_iff, readText]
  split <;> simp_all

theorem mem_entries_of_look {content : Content} (found : t.look place = some (.file content)) :
    (place, .file content) ∈ t.entries := by
  rw [look] at found
  split at found
  · cases found
  · obtain ⟨front, back, all, -⟩ := List.lookup_eq_some_iff.mp found
    rw [all]
    simp

theorem walk_of_resolve (h : t.resolve path = .ok place) :
    path ≠ "" ∧ t.walk (t.origin path) (Path.parts path) = .ok place := by
  rw [resolve] at h
  cases fault : pathFault? path with
  | some e => rw [fault] at h; cases h
  | none =>
    rw [fault] at h
    refine ⟨?_, h⟩
    rintro rfl
    cases fault

/-- A path that leads to a file ends in a name. -/
theorem exists_fileName (standing : t.Standing) (file : t.isFile path = true) :
    ∃ name, Path.fileName? path = some name := by
  obtain ⟨place, content, resolved, found⟩ := isFile_iff.mp file
  obtain ⟨nonempty, walked⟩ := walk_of_resolve resolved
  have leads := destination_of_walk walked
  obtain ⟨front, last, all⟩ : ∃ front last, Path.components path = front ++ [last] :=
    ⟨_, _, (List.dropLast_concat_getLast (Path.components_ne_nil nonempty)).symm⟩
  rw [destination_eq, all, List.map_append] at leads
  rw [Path.fileName?, all, List.getLast?_concat]
  obtain ⟨parent, before, stepped⟩ := walk_append_eq_ok_iff.mp leads
  have reached := (reached_origin standing path).walk before
  rw [List.map_singleton, walk_single] at stepped
  have directory := look_of_step stepped
  -- anything but a name leads from a directory to a directory
  cases last with
  | name s => exact ⟨s, rfl⟩
  | root =>
    rw [step_not_isSolid rfl stepped, directory] at found
    cases found
  | here =>
    rw [step_not_isSolid rfl stepped, directory] at found
    cases found
  | up =>
    obtain rfl : parent.dropLast = place := by
      simpa [step, directory, componentText] using stepped
    rw [reached.look_dropLast directory] at found
    cases found

/-- A single dot leads to a directory. -/
theorem components_ne_here (file : t.isFile path = true) : Path.components path ≠ [.here] := by
  obtain ⟨place, content, resolved, found⟩ := isFile_iff.mp file
  have leads := destination_of_walk (walk_of_resolve resolved).2
  intro dot
  rw [destination_eq, dot] at leads
  have stepped : t.step (t.origin path) "." = .ok place := walk_single t _ _ ▸ leads
  rw [step_not_isSolid rfl stepped, look_of_step stepped] at found
  cases found

end Tree

/-! ## Paths without dots -/

/-- The name that a component is. -/
def Component.name? : Component → Option String
  | .name s => some s
  | _ => none

theorem Component.name?_eq_some {c : Component} {s : String} : c.name? = some s ↔ c = .name s := by
  cases c <;> simp [name?]

theorem Component.map_name_filterMap {components : List Component}
    (h : ∀ c ∈ components, ∃ s, c = .name s) :
    (components.filterMap name?).map .name = components := by
  induction components with
  | nil => rfl
  | cons c rest ih =>
    obtain ⟨⟨s, rfl⟩, others⟩ := List.forall_mem_cons.mp h
    rw [List.filterMap_cons_some (by rfl), List.map_cons, ih others]

namespace Path

/-- A path is spelled without one or two dots. -/
def IsPlain (path : String) : Prop :=
  ∀ c ∈ components path, c ≠ .here ∧ c ≠ .up

/-- The names in a path. -/
def names (path : String) : List String :=
  (components path).filterMap Component.name?

variable {path base : String}

theorem leading_eq_name {part s : String} (h : leading part = .name s) :
    isSolid s = true ∧ s ≠ ".." := by
  unfold leading at h
  split at h
  · cases h
  next named =>
  split at h
  · cases h
  next dot =>
  split at h
  · cases h
  next dots =>
  obtain rfl := Component.name.inj h
  exact ⟨decide_eq_true (not_or.mpr ⟨named, dot⟩), dots⟩

theorem leading_ne_root {part : String} (solid : isSolid part = true) : leading part ≠ .root := by
  obtain ⟨named, -⟩ := not_or.mp (of_decide_eq_true solid)
  rw [leading, if_neg named]
  split
  · exact Component.noConfusion
  · split <;> exact Component.noConfusion

/-- The names of a path are names that entries can have. -/
theorem isSolid_of_mem_names {name : String} (mem : name ∈ names path) :
    isSolid name = true ∧ name ≠ ".." := by
  obtain ⟨c, there, named⟩ := List.mem_filterMap.mp mem
  obtain rfl := Component.name?_eq_some.mp named
  by_cases empty : path = ""
  · rw [empty, components_empty] at there
    cases there
  · obtain ⟨first, rest, split⟩ := List.exists_cons_of_ne_nil (parts_ne_nil path)
    rw [components_eq empty split] at there
    rcases List.mem_cons.mp there with begins | later
    · exact leading_eq_name begins.symm
    · obtain ⟨part, -, same⟩ := List.mem_map.mp later
      exact leading_eq_name same

/-- A path without dots is a slash, if it is absolute, and its names. -/
theorem components_of_isPlain (plain : IsPlain path) :
    components path = (if isAbsolute path then [.root] else []) ++ (names path).map .name := by
  by_cases empty : path = ""
  · rw [empty, names, components_empty]
    rfl
  obtain ⟨first, rest, split⟩ := List.exists_cons_of_ne_nil (parts_ne_nil path)
  have all := components_eq empty split
  rw [IsPlain, all] at plain
  obtain ⟨begins, later⟩ := List.forall_mem_cons.mp plain
  have named : ∀ c ∈ (rest.filter isSolid).map leading, ∃ s, c = .name s := by
    intro c mem
    obtain ⟨part, there, rfl⟩ := List.mem_map.mp mem
    have root := leading_ne_root (List.mem_filter.mp there).2
    obtain ⟨here, up⟩ := later _ mem
    cases spelled : leading part with
    | name s => exact ⟨s, rfl⟩
    | root => exact absurd spelled root
    | here => exact absurd spelled here
    | up => exact absurd spelled up
  have others := Component.map_name_filterMap named
  rw [isAbsolute_eq, names, all, List.head?_cons]
  cases spelled : leading first with
  | name s =>
    rw [List.filterMap_cons_some (by rfl), List.map_cons, others]
    rfl
  | root =>
    rw [List.filterMap_cons_none (by rfl), others]
    rfl
  | here => exact absurd spelled begins.1
  | up => exact absurd spelled begins.2

end Path

namespace Tree

variable {t : Tree} {path base : String} {place : Place}

/-- A walk along names ends at the place that they spell. -/
theorem walk_names {last : Place} {names : List String}
    (solid : ∀ name ∈ names, Path.isSolid name = true ∧ name ≠ "..")
    (walked : t.walk place names = .ok last) : last = place ++ names := by
  induction names generalizing place with
  | nil =>
    obtain rfl := Except.ok.inj walked
    exact (List.append_nil _).symm
  | cons name rest ih =>
    obtain ⟨first, others⟩ := List.forall_mem_cons.mp solid
    obtain ⟨next, stepped, later⟩ := walk_cons_eq_ok_iff.mp walked
    rw [ih others later, step_name ⟨of_decide_eq_true first.1, first.2⟩ stepped,
      List.append_assoc]
    rfl

/-- A path without dots leads to the place that its names spell. -/
theorem resolve_of_isPlain (plain : Path.IsPlain path) (resolved : t.resolve path = .ok place) :
    place = t.origin path ++ Path.names path := by
  have leads := destination_of_walk (walk_of_resolve resolved).2
  have texts : ((Path.names path).map Component.name).map componentText = Path.names path := by
    rw [List.map_map]
    exact List.map_id _
  have solid : ∀ name ∈ Path.names path, Path.isSolid name = true ∧ name ≠ ".." :=
    fun _ => Path.isSolid_of_mem_names
  rw [destination_eq, Path.components_of_isPlain plain, List.map_append, texts] at leads
  cases absolute : Path.isAbsolute path with
  | false =>
    rw [absolute] at leads
    exact walk_names solid leads
  | true =>
    rw [absolute] at leads
    change t.walk (t.origin path) ("" :: Path.names path) = .ok place at leads
    obtain ⟨next, stepped, later⟩ := walk_cons_eq_ok_iff.mp leads
    rw [← step_not_isSolid rfl stepped]
    exact walk_names solid later

/-- Of two paths without dots that begin at one place, one leads into the place of the other only if
it begins with the other one. -/
theorem startsWith_of_prefix {outer : Place} (plain : Path.IsPlain path)
    (plain' : Path.IsPlain base) (origin : Path.isAbsolute path = Path.isAbsolute base)
    (resolved : t.resolve path = .ok place) (resolved' : t.resolve base = .ok outer)
    (inside : outer <+: place) : Path.startsWith path base = true := by
  have begins : t.origin path = t.origin base := by
    rw [Tree.origin, Tree.origin, origin]
  rw [resolve_of_isPlain plain resolved, resolve_of_isPlain plain' resolved', begins,
    List.prefix_append_right_inj] at inside
  rw [Path.startsWith, List.isPrefixOf_iff_prefix, Path.components_of_isPlain plain,
    Path.components_of_isPlain plain', origin, List.prefix_append_right_inj]
  exact inside.map _

end Tree

end Assay.Files
