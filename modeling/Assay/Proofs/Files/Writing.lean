import Assay.Files.Tree

/-!
# Writing text files

A text file is written at the slot of its path, which depends on the tree and the path but not on
the text. A tree extends another one when it has all the directories of that one and something
wherever the other has something; walks, targets and the texts that were written survive in it.
Main statements: a tree keeps a text that was put into a slot, and is extended by what is written.
-/

namespace Assay.Files.Tree

/-! ## Looking after putting -/

theorem lookup_replace (place other : Place) (entry : Entry) (entries : List (Place × Entry)) :
    (put.replace place entry entries).lookup other =
      if other = place then some entry else entries.lookup other := by
  induction entries with
  | nil =>
    by_cases h : other = place
    · simp [put.replace, h]
    · have hb : (other == place) = false := by simpa using h
      simp [put.replace, List.lookup_cons, h, hb]
  | cons first rest ih =>
    obtain ⟨key, old⟩ := first
    by_cases hk : key = place
    · subst hk
      by_cases h : other = key
      · simp [put.replace, h]
      · have hb : (other == key) = false := by simpa using h
        simp [put.replace, List.lookup_cons, h, hb]
    · by_cases h : other = key
      · subst h
        simp [put.replace, hk]
      · have hb : (other == key) = false := by simpa using h
        simp [put.replace, hk, List.lookup_cons, hb, ih]

/-- After putting an entry at a place it stands there, and all else is as before. The root is a
directory whatever is put there. -/
theorem look_put (t : Tree) (place other : Place) (entry : Entry) :
    (t.put place entry).look other =
      if other = [] then some .directory
      else if other = place then some entry
      else t.look other := by
  simp only [look, put, lookup_replace]
  split <;> rfl

theorem ne_nil_of_look_ne {t : Tree} {place : Place} (h : t.look place ≠ some .directory) :
    place ≠ [] := by
  rintro rfl
  exact h (by simp [look])

theorem look_put_self {t : Tree} {place : Place} {entry : Entry}
    (free : t.look place ≠ some .directory) : (t.put place entry).look place = some entry := by
  rw [look_put, if_neg (ne_nil_of_look_ne free), if_pos rfl]

theorem look_put_of_ne {t : Tree} {place other : Place} {entry : Entry} (h : other ≠ place) :
    (t.put place entry).look other = t.look other := by
  rw [look_put, if_neg h]
  split
  · next root => rw [root, look, if_pos rfl]
  · rfl

/-! ## Walks -/

section walks
variable {t : Tree} {place next last : Place} {part : String} {front rest : List String}

theorem walk_append (t : Tree) (place : Place) (front back : List String) :
    t.walk place (front ++ back) = t.walk place front >>= fun next => t.walk next back := by
  induction front generalizing place with
  | nil => rfl
  | cons part rest ih =>
    simp only [List.cons_append, walk]
    cases t.step place part with
    | error e => rfl
    | ok next => exact ih next

theorem walk_single (t : Tree) (place : Place) (part : String) :
    t.walk place [part] = t.step place part := by
  rw [walk]
  cases t.step place part <;> rfl

/-- A walk is a step, and then a walk from where the step leads. -/
theorem walk_cons_eq_ok_iff : t.walk place (part :: rest) = .ok last ↔
    ∃ next, t.step place part = .ok next ∧ t.walk next rest = .ok last := by
  rw [walk]
  cases t.step place part <;> simp [bind, Except.bind]

/-- A walk along two lists of parts is one along the first, and then one along the second. -/
theorem walk_append_eq_ok_iff : t.walk place (front ++ rest) = .ok last ↔
    ∃ next, t.walk place front = .ok next ∧ t.walk next rest = .ok last := by
  rw [walk_append]
  cases t.walk place front <;> simp [bind, Except.bind]

end walks

/-! ## Extensions -/

/-- A tree that has all the directories of another one, and something wherever the other has
something. -/
structure Extends (t u : Tree) : Prop where
  here : u.here = t.here
  directory : ∀ {place}, t.look place = some .directory → u.look place = some .directory
  present : ∀ {place}, (t.look place).isSome → (u.look place).isSome

namespace Extends

variable {t u : Tree}

/-- Putting an entry where no directory stands extends a tree. -/
theorem put {place : Place} (entry : Entry) (free : t.look place ≠ some .directory) :
    t.Extends (t.put place entry) where
  here := rfl
  directory := by
    intro other found
    have other_ne : other ≠ place := by
      rintro rfl
      exact free found
    rwa [look_put_of_ne other_ne]
  present := by
    intro other found
    by_cases h : other = place
    · rw [h, look_put_self free]
      rfl
    · rwa [look_put_of_ne h]

theorem step {place next : Place} {part : String} (h : t.Extends u)
    (stepped : t.step place part = .ok next) : u.step place part = .ok next := by
  cases found : t.look place with
  | none => simp [Tree.step, found] at stepped
  | some entry =>
    cases entry with
    | file _ => simp [Tree.step, found] at stepped
    | directory =>
      simp only [Tree.step, found] at stepped
      simp only [Tree.step, h.directory found]
      -- Of the questions a step asks only the last one is about the tree.
      by_cases there : (t.look (place ++ [part])).isSome = true
      · simpa only [if_pos there, if_pos (h.present there)] using stepped
      · simp only [if_neg there] at stepped
        split at stepped
        · next same => rwa [if_pos same]
        · next same =>
          rw [if_neg same]
          split at stepped
          · next up => rwa [if_pos up]
          · split at stepped <;> cases stepped

theorem walk {place last : Place} {parts : List String} (h : t.Extends u)
    (walked : t.walk place parts = .ok last) : u.walk place parts = .ok last := by
  induction parts generalizing place with
  | nil => exact walked
  | cons part rest ih =>
    obtain ⟨next, stepped, later⟩ := walk_cons_eq_ok_iff.mp walked
    exact walk_cons_eq_ok_iff.mpr ⟨next, h.step stepped, ih later⟩

theorem origin (h : t.Extends u) (path : String) : u.origin path = t.origin path := by
  rw [Tree.origin, Tree.origin, h.here]

end Extends

/-- A step to a name leads to the entry of that name. -/
theorem step_name {t : Tree} {place next : Place} {name : String}
    (h : ¬ (name = "" ∨ name = ".") ∧ name ≠ "..") (stepped : t.step place name = .ok next) :
    next = place ++ [name] := by
  unfold step at stepped
  split at stepped
  · rw [if_neg h.1, if_neg h.2] at stepped
    split at stepped
    · cases stepped
    · split at stepped
      · exact (Except.ok.inj stepped).symm
      · cases stepped
  · cases stepped
  · cases stepped

/-! ## Targets -/

/-- A path has a target when all its parts but the last lead to a directory and the last one is a
name that fits. -/
theorem target_eq_ok_iff {t : Tree} {path : String} {place : Place} :
    t.target path = .ok (some place) ↔
      pathFault? path = none ∧ ∃ front last parent, Path.parts path = front ++ [last] ∧
        t.walk (t.origin path) front = .ok parent ∧ t.look parent = some .directory ∧
        ¬ (last = "" ∨ last = "." ∨ last = "..") ∧ last.utf8ByteSize ≤ maxNameBytes ∧
        place = parent ++ [last] := by
  rw [target]
  cases pathFault? path with
  | some e => simp
  | none =>
    simp only [bind, Except.bind, true_and]
    constructor
    · intro h
      cases walked : t.walk (t.origin path) (Path.parts path).dropLast with
      | error e => rw [walked] at h; cases h
      | ok parent =>
        cases ends : (Path.parts path).getLast? with
        | none => cases found : t.look parent <;> grind
        | some last =>
          obtain ⟨front, parts⟩ := List.getLast?_eq_some_iff.mp ends
          rw [parts, List.dropLast_concat] at walked
          exact ⟨front, last, parent, parts, walked, by grind⟩
    · rintro ⟨front, last, parent, parts, walked, found, name, short, rfl⟩
      simp [parts, walked, found, name, Nat.not_lt.mpr short]

theorem Extends.target {t u : Tree} {path : String} {place : Place} (h : t.Extends u)
    (targeted : t.target path = .ok (some place)) : u.target path = .ok (some place) := by
  rw [target_eq_ok_iff] at targeted ⊢
  obtain ⟨fault, front, last, parent, parts, walked, found, name, short, rfl⟩ := targeted
  rw [h.origin]
  exact ⟨fault, front, last, parent, parts, h.walk walked, h.directory found, name, short, rfl⟩

/-- What stands at the target of a path is what the path leads to. -/
theorem stat_of_target {t : Tree} {path : String} {place : Place} {entry : Entry}
    (targeted : t.target path = .ok (some place)) (found : t.look place = some entry) :
    t.stat path = .ok entry := by
  obtain ⟨fault, front, last, parent, parts, walked, directory, name, short, rfl⟩ :=
    target_eq_ok_iff.mp targeted
  have stepped : t.step parent last = .ok (parent ++ [last]) := by
    rw [not_or, not_or] at name
    simp [step, directory, name, found, Nat.not_lt.mpr short]
  have resolved : t.resolve path = .ok (parent ++ [last]) := by
    rw [resolve, fault]
    simp [parts, walk_append, walked, walk, stepped, bind, Except.bind]
  simp [stat, resolved, found, bind, Except.bind]

/-! ## Slots -/

/-- The place where a text file can be written under a path, or why there is none. -/
def slot (t : Tree) (path : String) : Except FileError Place := do
  match ← t.target path with
  | none => .error .isDirectory
  | some place =>
    match t.look place with
    | some .directory => .error .isDirectory
    | _ => .ok place

/-- Writing a text puts it into the slot of the path. -/
theorem writeText_eq (t : Tree) (path text : String) :
    t.writeText path text = (t.slot path).map fun place => t.put place (.file (.text text)) := by
  simp only [writeText, slot, bind, Except.bind]
  cases t.target path with
  | error e => rfl
  | ok slot =>
    cases slot with
    | none => rfl
    | some place =>
      cases found : t.look place with
      | none => simp [Except.map, found]
      | some entry => cases entry <;> simp [Except.map, found]

theorem slot_eq_ok_iff {t : Tree} {path : String} {place : Place} :
    t.slot path = .ok place ↔
      t.target path = .ok (some place) ∧ t.look place ≠ some .directory := by
  simp only [slot, bind, Except.bind]
  cases t.target path with
  | error e => simp
  | ok slot =>
    cases slot with
    | none => simp
    | some other => grind

/-- A text that can be written under a path has a slot there, and so has any other text. -/
theorem exists_slot_of_writeText {t written : Tree} {path text : String}
    (h : t.writeText path text = .ok written) :
    ∃ place, t.slot path = .ok place ∧ written = t.put place (.file (.text text)) := by
  rw [writeText_eq] at h
  cases found : t.slot path with
  | error e => rw [found] at h; cases h
  | ok place =>
    rw [found] at h
    exact ⟨place, rfl, (Except.ok.inj h).symm⟩

theorem slot_free {t : Tree} {path : String} {place : Place} (h : t.slot path = .ok place) :
    t.look place ≠ some .directory :=
  (slot_eq_ok_iff.mp h).2

/-- The text that stands in the slot of a path is what reading the path gives. -/
theorem readText_of_slot {t : Tree} {path text : String} {place : Place}
    (h : t.slot path = .ok place) (found : t.look place = some (.file (.text text))) :
    t.readText path = .ok text := by
  rw [readText, stat_of_target (slot_eq_ok_iff.mp h).1 found]

/-- A slot stays one when a file is put into it or into another slot. -/
theorem slot_put_file {t : Tree} {path : String} {place filled : Place} {content : Content}
    (h : t.slot path = .ok place) (free : t.look filled ≠ some .directory) :
    (t.put filled (.file content)).slot path = .ok place := by
  obtain ⟨targeted, clear⟩ := slot_eq_ok_iff.mp h
  refine slot_eq_ok_iff.mpr ⟨(Extends.put _ free).target targeted, ?_⟩
  by_cases same : place = filled
  · subst same
    rw [look_put_self free]
    exact fun h => nomatch h
  · rwa [look_put_of_ne same]

/-! ## Texts that are kept -/

/-- A text stands in the slot of a path. -/
def Keeps (t : Tree) (path text : String) : Prop :=
  ∃ place, t.slot path = .ok place ∧ t.look place = some (.file (.text text))

section keeps
variable {t u : Tree} {path text : String} {place : Place}

theorem Keeps.readText (h : t.Keeps path text) : t.readText path = .ok text := by
  obtain ⟨place, slot, found⟩ := h
  exact readText_of_slot slot found

/-- A text that was put into the slot of a path is kept. -/
theorem keeps_put (slot : t.slot path = .ok place) (text : String) :
    (t.put place (.file (.text text))).Keeps path text :=
  have free := slot_free slot
  ⟨place, slot_put_file slot free, look_put_self free⟩

/-- A text is kept in a larger tree that has the same in its place. -/
theorem Keeps.later (h : t.Keeps path text) (grown : t.Extends u)
    (same : ∀ place, t.slot path = .ok place → t.look place = some (.file (.text text)) →
      u.look place = some (.file (.text text))) : u.Keeps path text := by
  obtain ⟨place, slot, found⟩ := h
  have still := same place slot found
  refine ⟨place, slot_eq_ok_iff.mpr ⟨grown.target (slot_eq_ok_iff.mp slot).1, ?_⟩, still⟩
  rw [still]
  exact fun h => nomatch h

/-- A text is kept when a file is put into another place. -/
theorem Keeps.put {content : Content} (h : t.Keeps path text)
    (free : t.look place ≠ some .directory) (apart : t.slot path ≠ .ok place) :
    (t.put place (.file content)).Keeps path text := by
  refine h.later (Extends.put _ free) fun own slot found => ?_
  have other : own ≠ place := by
    rintro rfl
    exact apart slot
  rw [look_put_of_ne other, found]

end keeps

end Assay.Files.Tree
