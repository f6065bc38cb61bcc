import Assay.Proofs.Files.Making
import Assay.Proofs.Suite.Isolation
import Mathlib.Data.List.Nodup

/-!
# The files that a run touches

A run of a suite makes directories on the way to its output directory and one in it for each
selected task, and writes the log of each selected task into that directory; publishing writes the
two summaries into the output directory. Main statement: nothing else becomes of any place in the
tree, whatever the replies of the model and the order of the tasks, and whether the run succeeds or
fails; and these places are pairwise different, as are the paths that lead to them.
-/

namespace Assay.Suite

open Files

/-! ## What may become of a place -/

/-- What may have become of a place, when `summaries` may have been written into the output
directory. -/
inductive Touched (s : Suite m) (selection : Selection) (summaries : List String)
    (before after : Tree) (place : Place) : Prop
  /-- It is as it was. -/
  | kept (same : after.look place = before.look place)
  /-- A directory was made where the first components of the output directory lead. -/
  | way {count} (free : before.look place = none) (made : after.look place = some .directory)
      (leads : after.along s.output count = .ok place)
  /-- The directory of a selected task was made in the output directory. -/
  | taskDirectory {t base} (selected : t ∈ s.selected selection)
      (output : after.destination s.output = .ok base) (child : place = base ++ [t.name])
      (free : before.look place = none) (made : after.look place = some .directory)
  /-- The log of a selected task was written into the directory of the task. -/
  | log {t base text} (selected : t ∈ s.selected selection)
      (output : after.destination s.output = .ok base)
      (inside : place = base ++ [t.name, Log.fileName])
      (file : before.look place ≠ some .directory)
      (written : after.look place = some (.file (.text text)))
  /-- A summary was written into the output directory. -/
  | summary {name base text} (published : name ∈ summaries)
      (output : after.destination s.output = .ok base) (child : place = base ++ [name])
      (file : before.look place ≠ some .directory)
      (written : after.look place = some (.file (.text text)))

/-- A tree that a run may leave, after it has published some summaries. -/
structure Confined (s : Suite m) (selection : Selection) (summaries : List String)
    (before after : Tree) : Prop where
  grown : before.Extends after
  touched : ∀ place, s.Touched selection summaries before after place

variable {s : Suite m} {selection : Selection} {summaries : List String}
  {before middle after : Tree} {place : Place} {t : Task}

/-- What became of a place is so still in a larger tree that has the same there. -/
theorem Touched.later (h : s.Touched selection summaries before middle place)
    (grown : middle.Extends after) (same : after.look place = middle.look place) :
    s.Touched selection summaries before after place := by
  cases h with
  | kept kept => exact .kept (same.trans kept)
  | way free made leads => exact .way free (same.trans made) (grown.along leads)
  | taskDirectory selected output child free made =>
    exact .taskDirectory selected (grown.along output) child free (same.trans made)
  | log selected output inside file written =>
    exact .log selected (grown.along output) inside file (same.trans written)
  | summary published output child file written =>
    exact .summary published (grown.along output) child file (same.trans written)

namespace Confined

theorem refl (s : Suite m) (selection : Selection) (summaries : List String) (tree : Tree) :
    s.Confined selection summaries tree tree :=
  ⟨.refl tree, fun _ => .kept rfl⟩

/-- What stands nowhere later stood nowhere before. -/
theorem free (h : s.Confined selection summaries before after) (gone : after.look place = none) :
    before.look place = none := by
  cases found : before.look place with
  | none => rfl
  | some entry =>
    have there : (after.look place).isSome = true := h.grown.present (by rw [found]; rfl)
    rw [gone] at there
    cases there

theorem mono (h : s.Confined selection summaries before after) {more : List String}
    (sub : summaries ⊆ more) : s.Confined selection more before after := by
  refine ⟨h.grown, fun place => ?_⟩
  cases h.touched place with
  | kept same => exact .kept same
  | way free made leads => exact .way free made leads
  | taskDirectory selected output child free made =>
    exact .taskDirectory selected output child free made
  | log selected output inside file written => exact .log selected output inside file written
  | summary published output child file written =>
    exact .summary (sub published) output child file written

end Confined

/-! ## Directories -/

/-- The name of a task is the name of one entry of a directory. -/
theorem name_isName (mem : t ∈ s.tasks) :
    '/' ∉ t.name.toList ∧ Path.isSolid t.name = true ∧ t.name ≠ ".." ∧
      Path.leading t.name = .name t.name := by
  obtain ⟨noSlash, named, dot, dots⟩ := part_of_isIdentifier (s.isIdentifier_name mem)
  refine ⟨noSlash, decide_eq_true (not_or.mpr ⟨named, dot⟩), dots, ?_⟩
  rw [Path.leading, if_neg named, if_neg dot, if_neg dots]

/-- Directories that are made on the way to the log directory of a task are on the way to the output
directory, or it is the log directory itself. -/
theorem along_logDirectory {tree : Tree} (mem : t ∈ s.tasks) {count : Nat}
    (leads : tree.along (s.logDirectory t) count = .ok place) :
    tree.along s.output count = .ok place ∨
      ∃ base, tree.destination s.output = .ok base ∧ place = base ++ [t.name] := by
  obtain ⟨noSlash, solid, up, -⟩ := s.name_isName mem
  have longer := Path.components_join s.output noSlash solid
  by_cases short : count ≤ (Path.components s.output).length
  · refine .inl ?_
    have origin : tree.origin (s.logDirectory t) = tree.origin s.output := by
      rw [Tree.origin, Tree.origin, logDirectory, Path.isAbsolute_join _ noSlash]
    rw [Tree.along, origin, logDirectory, longer, List.take_append_of_le_length short] at leads
    exact leads
  · refine .inr (Tree.destination_join noSlash solid up ?_)
    have all : (Path.components (s.logDirectory t)).length ≤ count := by
      rw [logDirectory, longer, List.length_append, List.length_singleton]
      omega
    rw [Tree.along, List.take_of_length_le all] at leads
    exact (Tree.destination_eq tree _).trans leads

/-- A run may make directories on the way to the output directory, and the log directories of
selected tasks. -/
theorem Confined.made {path : String} (h : s.Confined selection summaries before middle)
    (own : path = s.output ∨ ∃ t ∈ s.selected selection, path = s.logDirectory t)
    (made : Tree.Made path middle after) : s.Confined selection summaries before after := by
  refine ⟨h.grown.trans made.grown, fun place => ?_⟩
  rcases made.fate place with same | ⟨free, there, count, leads⟩
  · exact (h.touched place).later made.grown same
  · have fresh := h.free free
    rcases own with rfl | ⟨t, selected, rfl⟩
    · exact .way fresh there leads
    · rcases along_logDirectory (s.mem_selected.mp selected).1 leads with
        leads | ⟨base, output, child⟩
      · exact .way fresh there leads
      · exact .taskDirectory selected output child fresh there

theorem Confined.makeAll {paths : List String} (h : s.Confined selection summaries before middle)
    (own : ∀ path ∈ paths, path = s.output ∨ ∃ t ∈ s.selected selection, path = s.logDirectory t) :
    s.Confined selection summaries before (makeAll middle paths).2 := by
  induction paths generalizing middle with
  | nil => exact h
  | cons path rest ih =>
    obtain ⟨first, others⟩ := List.forall_mem_cons.mp own
    have one := h.made first (Tree.made_makeDirectories middle path)
    unfold Suite.makeAll
    split
    · next next made =>
      rw [made] at one
      exact ih one others
    · next made =>
      rw [made] at one
      exact one

theorem own_of_mem_logDirectories :
    ∀ path ∈ (s.selected selection).map s.logDirectory,
      path = s.output ∨ ∃ t ∈ s.selected selection, path = s.logDirectory t := by
  intro path mem
  obtain ⟨t, selected, rfl⟩ := List.mem_map.mp mem
  exact .inr ⟨t, selected, rfl⟩

/-- The directories that are made before the tasks are run. -/
theorem confined_prepare (s : Suite m) (selection : Selection) (tree : Tree) :
    s.Confined selection [] tree (s.prepare selection tree).2 := by
  apply (Confined.refl s selection [] tree).makeAll
  exact List.forall_mem_cons.mpr ⟨.inl rfl, own_of_mem_logDirectories⟩

/-! ## Files -/

/-- Writing a text into a slot changes that place only, which no directory stood at before. -/
theorem Confined.put {text : String} (h : s.Confined selection summaries before middle)
    (free : middle.look place ≠ some .directory)
    (touched : ∀ after, middle.Extends after → after.look place = some (.file (.text text)) →
      before.look place ≠ some .directory → s.Touched selection summaries before after place) :
    s.Confined selection summaries before (middle.put place (.file (.text text))) := by
  have grown := Tree.Extends.put (.file (.text text)) free
  refine ⟨h.grown.trans grown, fun other => ?_⟩
  by_cases same : other = place
  · subst same
    refine touched _ grown (Tree.look_put_self free) ?_
    intro directory
    exact free (h.grown.directory directory)
  · exact (h.touched other).later grown (Tree.look_put_of_ne same)

/-- A task that is done has written its log at most. -/
theorem Confined.log [Arithmetic α] {attempts : List Attempt}
    (h : s.Confined selection summaries before middle) (selected : t ∈ s.selected selection) :
    s.Confined selection summaries before
      (t.conclude (s.logDirectory t) attempts middle : Run (Register α)).tree := by
  cases slot : middle.slot (Log.path (s.logDirectory t)) with
  | error e =>
    rw [Task.conclude_tree_eq, Log.after, Log.write_of_slot_error slot]
    exact h
  | ok place =>
    rw [Task.conclude_tree_of_slot slot]
    refine h.put (Tree.slot_free slot) ?_
    intro after grown written file
    obtain ⟨base, output, inside⟩ := slot_eq (s.mem_selected.mp selected).1 slot
    exact .log selected (grown.along output) inside file written

/-- While tasks are run, in any order, only logs of selected tasks are written. -/
theorem confined_of_reaches [Arithmetic α] {σ : Type} {s : Suite (StateM σ)}
    {clock : Clock (StateM σ)} {limit : Nat} {tree prepared : Tree}
    {state : Schedule World (Except Failure (Register α))}
    (ready : s.Confined selection [] tree prepared)
    (reached : Schedule.Reaches limit (work (s.selected selection) (s.TaskRuns clock))
      (schedule (s.selected selection) prepared) state) :
    s.Confined selection [] tree state.world.tree := by
  refine reached.keeps (fun state => s.Confined selection [] tree state.world.tree) ready ?_
  intro a b step confined
  cases step with
  | begin _ begins =>
    obtain ⟨t, -, rfl⟩ := begins
    exact confined
  | finish finishes =>
    obtain ⟨t, run, found, ⟨reply, -, ended⟩, -, rfl⟩ := finishes
    obtain ⟨attempts, -, rfl⟩ := Task.ends_iff.mp ended
    exact confined.log (List.mem_of_getElem? found)

/-- Once the directories are made, a run touches logs only. -/
theorem Ends.confined_of_prepare [Arithmetic α] {σ : Type} {s : Suite (StateM σ)}
    {clock : Clock (StateM σ)} {tree prepared : Tree} {run : Run (Register (Register α))}
    (confined : s.Confined selection [] before prepared)
    (ready : s.prepare selection tree = (none, prepared))
    (ended : s.Ends selection (s.TaskRuns clock) tree run) :
    s.Confined selection [] before run.tree := by
  cases ended with
  | unprepared failed =>
    rw [ready] at failed
    cases failed
  | finished ready' reached complete =>
    rw [ready] at ready'
    obtain rfl := (Prod.mk.inj ready').2
    exact confined_of_reaches confined reached

/-- The files of a run are confined, however it ends. -/
theorem Ends.confined [Arithmetic α] {σ : Type} {s : Suite (StateM σ)} {clock : Clock (StateM σ)}
    {tree : Tree} {run : Run (Register (Register α))}
    (ended : s.Ends selection (s.TaskRuns clock) tree run) :
    s.Confined selection [] tree run.tree := by
  have prepared := s.confined_prepare selection tree
  cases ended with
  | unprepared failed =>
    rw [failed] at prepared
    exact prepared
  | finished ready reached complete =>
    rw [ready] at prepared
    exact confined_of_reaches prepared reached

/-- Publishing writes summaries into the output directory at most. -/
theorem Confined.writeInto {name text : String} (h : s.Confined selection summaries before middle)
    (published : name ∈ summaries) (noSlash : '/' ∉ name.toList)
    (wrote : writeInto s.output name text middle = .ok after) :
    s.Confined selection summaries before after := by
  rw [Suite.writeInto, Tree.writeText_eq] at wrote
  cases slot : middle.slot (Path.join s.output name) with
  | error e => rw [slot] at wrote; cases wrote
  | ok place =>
    rw [slot] at wrote
    obtain rfl : middle.put place (.file (.text text)) = after := Except.ok.inj wrote
    refine h.put (Tree.slot_free slot) ?_
    intro after grown written file
    obtain ⟨base, output, child⟩ := Tree.slot_join noSlash slot
    exact .summary published (grown.along output) child file written

/-- The files of a run that is published are confined, whether or not it can be. -/
theorem Confined.publish {run : Run Summary} {tree : Tree}
    (h : s.Confined selection [] tree run.tree) :
    s.Confined selection [markdownFile, jsonFile] tree (publish s.output run).tree := by
  have ready := h.mono (List.nil_subset [markdownFile, jsonFile])
  unfold Suite.publish
  split
  · exact ready
  · split
    · exact ready
    · next first =>
      have once := ready.writeInto List.mem_cons_self (by decide) first
      split
      · exact once
      · next second =>
        exact once.writeInto (List.mem_cons_of_mem _ List.mem_cons_self) (by decide) second

/-- The log of a task that is not selected keeps its content. -/
theorem Confined.unselected {u : Task} {base : Place} {content : Content}
    (h : s.Confined selection summaries before after) (excluded : selection.includes u.name = false)
    (output : before.destination s.output = .ok base)
    (old : before.look (base ++ [u.name, Log.fileName]) = some (.file content)) :
    after.look (base ++ [u.name, Log.fileName]) = some (.file content) := by
  have still := h.grown.along output
  cases h.touched (base ++ [u.name, Log.fileName]) with
  | kept same => exact same.trans old
  | way free _ _ => rw [free] at old; cases old
  | taskDirectory _ _ _ free _ => rw [free] at old; cases old
  | log selected output' inside _ _ =>
    obtain rfl := Except.ok.inj (still.symm.trans output')
    have names := (List.cons.inj (List.append_cancel_left inside)).1
    rw [names, (s.mem_selected.mp selected).2] at excluded
    cases excluded
  | summary _ output' child _ _ =>
    obtain rfl := Except.ok.inj (still.symm.trans output')
    have names := (List.cons.inj (List.append_cancel_left child)).2
    cases names

/-! ## The places apart -/

/-- The files and directories of a suite, by the names that lead to them from the output
directory. -/
def footprint (s : Suite m) : List (List String) :=
  [] :: [markdownFile] :: [jsonFile] ::
    s.tasks.flatMap fun t => [[t.name], [t.name, Log.fileName]]

/-- The paths of the files and directories of a suite. -/
def paths (s : Suite m) : List String :=
  s.output :: Path.join s.output markdownFile :: Path.join s.output jsonFile ::
    s.tasks.flatMap fun t => [s.logDirectory t, Log.path (s.logDirectory t)]

theorem nodup_footprint (s : Suite m) : s.footprint.Nodup := by
  have tasks : (s.tasks.flatMap fun t => [[t.name], [t.name, Log.fileName]]).Nodup := by
    refine List.nodup_flatMap.mpr ⟨fun t _ => by simp, ?_⟩
    refine (List.pairwise_map.mp s.nodup_names).imp ?_
    intro t u differ
    simp [List.Disjoint, differ, differ.symm]
  -- the names of the summaries are no identifiers
  have summary : ∀ name, isIdentifier name = false →
      [name] ∉ s.tasks.flatMap fun t => [[t.name], [t.name, Log.fileName]] := by
    intro name odd mem
    obtain ⟨t, task, at_⟩ := List.mem_flatMap.mp mem
    have named : name = t.name := by simpa using at_
    rw [named, s.isIdentifier_name task] at odd
    cases odd
  have markdown := summary markdownFile (by decide)
  have json := summary jsonFile (by decide)
  have differ : markdownFile ≠ jsonFile := by decide
  simp [footprint, tasks, markdown, json, differ]

/-- A path of a suite has the components of the output directory and then its names. -/
theorem map_components_paths (s : Suite m) :
    s.paths.map Path.components =
      s.footprint.map fun names => Path.components s.output ++ names.map .name := by
  have file (directory : String) :
      Path.components (Log.path directory) = Path.components directory ++ [.name Log.fileName] :=
    Path.components_join directory (by decide) (by decide)
  have summary (name : String) (noSlash : '/' ∉ name.toList) (solid : Path.isSolid name = true)
      (leads : Path.leading name = .name name) :
      Path.components (Path.join s.output name) = Path.components s.output ++ [.name name] :=
    leads ▸ Path.components_join s.output noSlash solid
  have tasks : ∀ t ∈ s.tasks,
      Path.components (s.logDirectory t) = Path.components s.output ++ [.name t.name] := by
    intro t mem
    obtain ⟨noSlash, solid, -, leads⟩ := s.name_isName mem
    exact summary t.name noSlash solid leads
  rw [paths, footprint]
  simp only [List.map_cons, List.map_nil, List.append_nil, List.map_flatMap]
  rw [summary markdownFile (by decide) (by decide) (by decide),
    summary jsonFile (by decide) (by decide) (by decide)]
  refine congrArg (_ :: _ :: _ :: ·) (List.flatMap_congr ?_)
  intro t mem
  rw [file, tasks t mem]
  simp

/-- **A run touches its own files only**, whatever the replies of the model, the order of the tasks
and the tree at the beginning, and whether it succeeds or fails; so it is when the run is published.
The log of a task that is not selected keeps its content. The places and the paths of a suite are
pairwise different: the directory of a task is a child of the output directory, and what one task
writes does not lie in the directory of another one. -/
theorem run_touches_own_files {σ : Type} (s : Suite (StateM σ)) (clock : Clock (StateM σ))
    (selection : Selection) (tree : Tree) {run : Run Summary}
    (ended : s.Ends selection (s.TaskRuns clock) tree run) :
    (∀ place, s.Touched selection [] tree run.tree place) ∧
      (∀ place, s.Touched selection [markdownFile, jsonFile] tree (publish s.output run).tree
        place) ∧
      (∀ u ∈ s.tasks, selection.includes u.name = false →
        ∀ base content, tree.destination s.output = .ok base →
          tree.look (base ++ [u.name, Log.fileName]) = some (.file content) →
          (publish s.output run).tree.look (base ++ [u.name, Log.fileName]) =
            some (.file content)) ∧
      (s.paths.map Path.components).Nodup ∧
      (∀ base : Place, (s.footprint.map (base ++ ·)).Nodup) ∧
      ∀ t ∈ s.tasks,
        Path.components (s.logDirectory t) = Path.components s.output ++ [.name t.name] ∧
        ∀ u ∈ s.tasks, t.name ≠ u.name →
          ∀ base : Place, ¬ base ++ [u.name] <+: base ++ [t.name, Log.fileName] := by
  have confined := ended.confined
  have published := confined.publish
  refine ⟨confined.touched, published.touched, ?_, ?_, ?_, ?_⟩
  · intro u _ excluded base content output old
    exact published.unselected excluded output old
  · rw [map_components_paths]
    refine s.nodup_footprint.map ?_
    intro names others same
    refine List.map_injective_iff.mpr ?_ (List.append_cancel_left same)
    intro name other same
    exact Component.name.inj same
  · intro base
    exact s.nodup_footprint.map fun names others same => List.append_cancel_left same
  · intro t mem
    obtain ⟨noSlash, solid, -, leads⟩ := s.name_isName mem
    refine ⟨leads ▸ Path.components_join s.output noSlash solid, ?_⟩
    intro u _ differ base inside
    have names := (List.prefix_append_right_inj base).mp inside
    exact differ (List.cons_prefix_cons.mp names).1.symm

/-- A tree with the log of an earlier run of the first of two tasks. -/
def loggedTree : Tree where
  here := []
  entries := [(["out"], .directory), (["out", "alias"], .directory),
    (["out", "alias", "predictions.jsonl"], .file (.text "an earlier log"))]

/-- A run of the second task alone leaves the log of the first one as it is, also when the run is
published. -/
theorem run_touches_own_files_twins :
    ∃ run : Run Summary,
      run = (((twins .isolate).run (pure 0) (.only ["points"]) loggedTree
        : StateM Unit _).run ()).1 ∧
      (publish "out" run).tree.look ["out", "alias", "predictions.jsonl"] =
        some (.file (.text "an earlier log")) ∧
      ∀ place, (twins .isolate).Touched (.only ["points"]) [] loggedTree run.tree place := by
  obtain ⟨touched, -, kept, -⟩ := run_touches_own_files (twins .isolate) (pure 0)
    (.only ["points"]) loggedTree (run_ends (α := Float) _ _ _ _ ())
  refine ⟨_, rfl, ?_, touched⟩
  exact kept Task.mixed List.mem_cons_self (by decide) ["out"] (.text "an earlier log")
    (by decide +kernel) (by decide +kernel)

end Assay.Suite
