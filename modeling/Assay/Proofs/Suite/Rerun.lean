import Assay.Proofs.Files.Standing
import Assay.Proofs.Suite.Publication

/-!
# Running a suite again

A run that is published leaves its directories, the logs of the tasks it selected and the two
summaries (`Leaves`). Nothing more of the files bears on what the next run comes to, and that one
puts its logs and its summaries in the places of the old ones. Main statement: a run that is
published twice comes to the same summary and leaves the same files but for the times in its logs;
and after any number of published runs, each log is that of the last run that selected its task, and
the summaries are those of the last run.
-/

namespace Assay.Suite

open Files

variable {s : Suite m} {selection : Selection} {tree made prepared before after : Tree}
  {base place : Place} {t : Task} {summaries : List String}

/-! ## Directories that stand already -/

theorem extends_makeAll (tree : Tree) (paths : List String) :
    tree.Extends (makeAll tree paths).2 := by
  induction paths generalizing tree with
  | nil => exact .refl tree
  | cons path rest ih =>
    have grown := (Tree.made_makeDirectories tree path).grown
    unfold makeAll
    split
    · next next made =>
      rw [made] at grown
      exact grown.trans (ih next)
    · next made =>
      rw [made] at grown
      exact grown

/-- All of several directories can be made if the first one can be made, and then the others. -/
theorem makeAll_cons_eq_none {path : String} {rest : List String} :
    makeAll tree (path :: rest) = (none, after) ↔
      ∃ next, tree.makeDirectories path = (none, next) ∧ makeAll next rest = (none, after) := by
  rw [makeAll]
  split
  · next next made => simp [made]
  · next made => simp [made]

/-- Directories that could all be made stand. -/
theorem isDirectory_of_makeAll {paths : List String} (made : makeAll tree paths = (none, after))
    {path : String} (mem : path ∈ paths) (nonempty : path ≠ "") : after.isDirectory path = true := by
  induction paths generalizing tree with
  | nil => cases mem
  | cons first rest ih =>
    obtain ⟨next, one, others⟩ := makeAll_cons_eq_none.mp made
    rcases List.mem_cons.mp mem with rfl | later
    · have grown := extends_makeAll next rest
      rw [others] at grown
      exact grown.isDirectory (Tree.isDirectory_of_makeDirectories one nonempty)
    · exact ih others later

/-- Making directories once more changes nothing. -/
theorem makeAll_again {paths : List String} (made : makeAll tree paths = (none, after))
    {later : Tree} (grown : after.Extends later) : makeAll later paths = (none, later) := by
  induction paths generalizing tree with
  | nil => rfl
  | cons path rest ih =>
    obtain ⟨next, one, others⟩ := makeAll_cons_eq_none.mp made
    have further := extends_makeAll next rest
    rw [others] at further
    exact makeAll_cons_eq_none.mpr
      ⟨later, Tree.makeDirectories_again one (further.trans grown), ih others⟩

/-! ## Logs that can be written -/

/-- The output directory leads to a place, and neither its path nor a directory keeps the log of any
task from being written below it. -/
structure Admits (s : Suite m) (tree : Tree) (base : Place) : Prop where
  output : tree.destination s.output = .ok base
  usable : ∀ t ∈ s.tasks, Tree.pathFault? (Log.path (s.logDirectory t)) = none
  free : ∀ t ∈ s.tasks, tree.look (base ++ [t.name, Log.fileName]) ≠ some .directory

/-- Where a log can be written, it lies in a directory that the log directory of the task leads
to. -/
theorem slot_log_iff : tree.slot (Log.path (s.logDirectory t)) = .ok place ↔
    ∃ own, place = own ++ [Log.fileName] ∧
      tree.Writable (s.logDirectory t) Log.fileName own :=
  Tree.slot_join_eq_ok_iff (by decide) (by decide) (by decide)

theorem logDirectory_ne_empty (mem : t ∈ s.tasks) : s.logDirectory t ≠ "" := by
  obtain ⟨noSlash, solid, -, -⟩ := s.name_isName mem
  intro empty
  have components := Path.components_join s.output noSlash solid
  rw [← logDirectory, empty, Path.components_empty] at components
  simp at components

/-- Where the output directory leads already, no directory is made on the way to it. -/
theorem Confined.not_way {count : Nat} (h : s.Confined selection summaries before after)
    (output : before.destination s.output = .ok base) (free : before.look place = none)
    (leads : after.along s.output count = .ok place) : place = base := by
  rcases Tree.look_of_along output h.grown leads with same | there
  · exact same
  · rw [free] at there
    cases there

/-- What a run touches keeps no log from being written. -/
theorem Admits.later (h : s.Admits before base)
    (confined : s.Confined selection summaries before after) : s.Admits after base where
  output := confined.grown.along h.output
  usable := h.usable
  free t mem := by
    have output := confined.grown.along h.output
    intro directory
    cases confined.touched (base ++ [t.name, Log.fileName]) with
    | kept same => exact h.free t mem (same.symm.trans directory)
    | way free _ leads =>
      have same := confined.not_way h.output free leads
      simp at same
    | taskDirectory _ output' child _ _ =>
      obtain rfl := Except.ok.inj (output.symm.trans output')
      have names := (List.cons.inj (List.append_cancel_left child)).2
      cases names
    | log _ _ _ _ written =>
      rw [directory] at written
      cases written
    | summary _ _ _ _ written =>
      rw [directory] at written
      cases written

/-- A log can be written once the directory of its task stands. -/
theorem Admits.slot (h : s.Admits tree base) (mem : t ∈ s.tasks)
    (standing : tree.isDirectory (s.logDirectory t) = true) :
    ∃ place, tree.slot (Log.path (s.logDirectory t)) = .ok place := by
  obtain ⟨noSlash, solid, up, -⟩ := s.name_isName mem
  obtain ⟨-, own, leads, found⟩ := Tree.isDirectory_iff_destination.mp standing
  obtain ⟨base', output, rfl⟩ := Tree.destination_join noSlash solid up leads
  obtain rfl : base' = base := Except.ok.inj (output.symm.trans h.output)
  refine ⟨_, slot_log_iff.mpr ⟨_, rfl, leads, found, h.usable t mem, ?_⟩⟩
  rw [List.append_assoc]
  exact h.free t mem

/-- The output directory can be made, and then no log is kept from being written. -/
def Open (s : Suite m) (tree : Tree) : Prop :=
  ∃ made base, tree.makeDirectories s.output = (none, made) ∧ s.Admits made base

theorem Writable.isOpen (h : s.Writable .all tree) : s.Open tree := by
  obtain ⟨prepared, ready, slots⟩ := h.slots
  obtain ⟨made, first, others⟩ := makeAll_cons_eq_none.mp ready
  obtain ⟨base, output⟩ := Tree.destination_of_makeDirectories first
  have grown := extends_makeAll made ((s.selected .all).map s.logDirectory)
  rw [others] at grown
  refine ⟨made, base, first, output, ?_, ?_⟩
  · intro t mem
    obtain ⟨place, slot⟩ := slots t (s.mem_selected.mpr ⟨mem, rfl⟩)
    obtain ⟨own, -, writable⟩ := slot_log_iff.mp slot
    exact writable.usable
  · intro t mem directory
    obtain ⟨place, slot⟩ := slots t (s.mem_selected.mpr ⟨mem, rfl⟩)
    obtain ⟨base', output', rfl⟩ := slot_eq mem slot
    obtain rfl := Except.ok.inj ((grown.along output).symm.trans output')
    exact Tree.slot_free slot (grown.directory directory)

/-- Once the directories of a run are made in an open tree, its logs can be written. No directory
that is made after the output directory stands in the way of a log. -/
theorem Open.slots (h : s.Open tree) (ready : s.prepare selection tree = (none, prepared)) :
    ∃ made base, tree.makeDirectories s.output = (none, made) ∧ s.Admits made base ∧
      s.Confined selection [] made prepared ∧
      ∀ t ∈ s.selected selection, ∃ place,
        prepared.slot (Log.path (s.logDirectory t)) = .ok place := by
  obtain ⟨made, base, first, admits⟩ := h
  obtain ⟨made', first', others⟩ := makeAll_cons_eq_none.mp ready
  obtain rfl : made = made' := (Prod.mk.inj (first.symm.trans first')).2
  have confined := (Confined.refl s selection [] made).makeAll own_of_mem_logDirectories
  rw [others] at confined
  refine ⟨made, base, first, admits, confined, ?_⟩
  intro t selected
  have mem := (s.mem_selected.mp selected).1
  exact (admits.later confined).slot mem (isDirectory_of_makeAll others
    (List.mem_map_of_mem selected) (logDirectory_ne_empty mem))

/-! ## What a published run leaves -/

section leaves

variable {σ : Type} {s : Suite (StateM σ)} {model : Call → Reply} {clock clock' : Clock (StateM σ)}
  {summary : Summary} {tree' : Tree} {run : Run Summary} {attempts : List Attempt}

/-- A log is still recorded after a run that does not select its task. -/
theorem Recorded.unselected (h : s.Recorded before t attempts) (mem : t ∈ s.tasks)
    (excluded : selection.includes t.name = false)
    (confined : s.Confined selection summaries before after) : s.Recorded after t attempts := by
  refine Tree.Keeps.later h confined.grown ?_
  intro place slot found
  obtain ⟨base, output, rfl⟩ := slot_eq mem slot
  exact confined.unselected excluded output found

/-- A summary is still kept after a run that is not published. -/
theorem Confined.keeps_summary {name text : String} (noSlash : '/' ∉ name.toList)
    (odd : isIdentifier name = false) (h : before.Keeps (Path.join s.output name) text)
    (confined : s.Confined selection [] before after) :
    after.Keeps (Path.join s.output name) text := by
  refine h.later confined.grown ?_
  intro place slot found
  obtain ⟨base, output, rfl⟩ := Tree.slot_join noSlash slot
  cases confined.spared (confined.grown.along output) odd with
  | kept same => exact same.trans found
  | passage free _ _ _ =>
    rw [free] at found
    cases found

/-- The files are the same, except that the log of each selected task, in the place where it was,
tells of attempts that differ from the old ones in their times only. -/
def SameButTimes (s : Suite m) (selection : Selection) (before after : Tree) : Prop :=
  after.here = before.here ∧ ∃ base, before.destination s.output = .ok base ∧
    ∀ place, after.look place = before.look place ∨
      ∃ t ∈ s.selected selection, ∃ traces traces',
        place = base ++ [t.name, Log.fileName] ∧ List.Forall₂ Trace.SameButTimes traces traces' ∧
        before.look place = some (.file (.text (Log.text traces))) ∧
        after.look place = some (.file (.text (Log.text traces')))

/-- What a published run leaves, of all that the next run depends on: its directories, the logs of
the tasks it selected, and the summaries, which tell of the outcomes of these tasks. -/
structure Leaves (s : Suite (StateM σ)) (model : Call → Reply) (clock : Clock (StateM σ))
    (selection : Selection) (summary : Summary) (tree : Tree) : Prop where
  ready : s.prepare selection tree = (none, tree)
  outcome : s.outcome selection model = .ok summary
  logs : ∀ t ∈ s.selected selection, ∃ attempts,
    t.Attempted (fun _ => model) (Told clock) attempts ∧ s.Recorded tree t attempts
  markdown : tree.Keeps (Path.join s.output markdownFile) summary.markdown
  json : tree.Keeps (Path.join s.output jsonFile) summary.toJson.pretty

/-- Publishing a run of which the logs can be written leaves what the next run depends on. -/
theorem leaves_of_slots
    (functional : ∀ call reply, Answers s.model call reply → reply = model call)
    (ready : s.prepare selection before = (none, prepared))
    (slots : ∀ t ∈ s.selected selection, ∃ place,
      prepared.slot (Log.path (s.logDirectory t)) = .ok place)
    (ended : s.Ends selection (s.TaskRuns clock) before run)
    (published : (publish s.output run).result = .ok summary) :
    s.Leaves model clock selection summary (publish s.output run).tree := by
  obtain ⟨result, logs⟩ := ended.of_slots functional ready slots
  obtain ⟨succeeded, markdown, json⟩ := (published_publish s.output run).keeps published
  have confined := (ended.confined_of_prepare (.refl s selection [] prepared) ready).publish
  refine ⟨makeAll_again ready confined.grown, result.symm.trans succeeded, ?_, markdown, json⟩
  intro t selected
  obtain ⟨attempts, attempted, recorded⟩ := logs t selected
  -- publishing touches what a run of no tasks may touch
  have apart := (Confined.refl s (.only []) [] run.tree).publish
  exact ⟨attempts, attempted, recorded.unselected (s.mem_selected.mp selected).1 rfl apart⟩

namespace Leaves

variable (left : s.Leaves model clock selection summary tree)
include left

/-- The summaries stand in the output directory, which is there. -/
theorem output_standing : ∃ base, tree.destination s.output = .ok base ∧
    tree.look base = some .directory ∧
    tree.look (base ++ [markdownFile]) = some (.file (.text summary.markdown)) ∧
    tree.look (base ++ [jsonFile]) = some (.file (.text summary.toJson.pretty)) := by
  obtain ⟨place, slot, found⟩ := left.markdown
  obtain ⟨other, slot', found'⟩ := left.json
  obtain ⟨base, rfl, writable⟩ :=
    (Tree.slot_join_eq_ok_iff (by decide) (by decide) (by decide)).mp slot
  obtain ⟨base', output', rfl⟩ := Tree.slot_join (by decide) slot'
  obtain rfl := Except.ok.inj (writable.leads.symm.trans output')
  exact ⟨base, output', writable.standing, found, found'⟩

/-- The log of a selected task stands in the directory of the task, which is there. -/
theorem log_standing (selected : t ∈ s.selected selection)
    (output : tree.destination s.output = .ok base) : ∃ attempts,
      t.Attempted (fun _ => model) (Told clock) attempts ∧
      tree.look (base ++ [t.name]) = some .directory ∧
      tree.look (base ++ [t.name, Log.fileName]) =
        some (.file (.text (Log.text (attempts.map Attempt.trace)))) := by
  obtain ⟨attempts, attempted, place, slot, found⟩ := left.logs t selected
  obtain ⟨own, inside, writable⟩ := slot_log_iff.mp slot
  obtain ⟨base', output', rfl⟩ := slot_eq (s.mem_selected.mp selected).1 slot
  obtain rfl := Except.ok.inj (output.symm.trans output')
  obtain rfl : base ++ [t.name] = own := by
    rw [← List.append_left_inj [Log.fileName], ← inside, List.append_assoc]
    rfl
  exact ⟨attempts, attempted, writable.standing, found⟩

/-- A run of the same tasks in what was left can be published, comes to the same summary and leaves
the same for the next one. -/
theorem again (functional : ∀ call reply, Answers s.model call reply → reply = model call)
    (ended : s.Ends selection (s.TaskRuns clock') tree run) :
    (publish s.output run).result = .ok summary ∧
      s.Leaves model clock' selection summary (publish s.output run).tree := by
  have slots : ∀ t ∈ s.selected selection, ∃ place,
      tree.slot (Log.path (s.logDirectory t)) = .ok place := by
    intro t selected
    obtain ⟨attempts, -, place, slot, -⟩ := left.logs t selected
    exact ⟨place, slot⟩
  obtain ⟨result, -⟩ := ended.of_slots functional left.ready slots
  have confined := ended.confined
  obtain ⟨place, slot, -⟩ := confined.keeps_summary (by decide) (by decide) left.markdown
  obtain ⟨other, slot', -⟩ := confined.keeps_summary (by decide) (by decide) left.json
  have published := publish_result_of_slots (result.trans left.outcome) slot slot'
  exact ⟨published, leaves_of_slots functional left.ready slots ended published⟩

end Leaves

/-- What two runs of the same tasks leave, one after the other, is the same but for times. -/
theorem Leaves.sameButTimes (left : s.Leaves model clock selection summary tree)
    (left' : s.Leaves model clock' selection summary tree')
    (confined : s.Confined selection [markdownFile, jsonFile] tree tree') :
    s.SameButTimes selection tree tree' := by
  obtain ⟨base, output, standing, markdown, json⟩ := left.output_standing
  obtain ⟨base', output', -, markdown', json'⟩ := left'.output_standing
  have still := confined.grown.along output
  obtain rfl : base = base' := Except.ok.inj (still.symm.trans output')
  refine ⟨confined.grown.here, base, output, fun place => ?_⟩
  cases confined.touched place with
  | kept same => exact .inl same
  | way free _ leads =>
    rw [confined.not_way output free leads, standing] at free
    cases free
  | @taskDirectory t _ selected output'' child free _ =>
    obtain rfl := Except.ok.inj (still.symm.trans output'')
    obtain ⟨-, -, there, -⟩ := left.log_standing selected output
    rw [child, there] at free
    cases free
  | @log t _ _ selected output'' inside _ _ =>
    obtain rfl := Except.ok.inj (still.symm.trans output'')
    obtain ⟨attempts, attempted, -, log⟩ := left.log_standing selected output
    obtain ⟨attempts', attempted', -, log'⟩ := left'.log_standing selected still
    rw [inside]
    exact .inr ⟨t, selected, _, _, rfl, forall₂_trace (attempted.sameButTimes attempted'), log, log'⟩
  | @summary name _ _ published output'' child _ _ =>
    obtain rfl := Except.ok.inj (still.symm.trans output'')
    rw [child]
    rcases List.mem_cons.mp published with rfl | other
    · exact .inl (markdown'.trans markdown.symm)
    · obtain rfl := List.mem_singleton.mp other
      exact .inl (json'.trans json.symm)

end leaves

/-! ## Runs after one another -/

/-- A run of a suite that was published: when and of what it was, the summary it came to, and the
files it left. -/
structure PublishedRun (σ : Type) where
  clock : Clock (StateM σ)
  selection : Selection
  summary : Summary
  tree : Tree

variable {σ : Type} {s : Suite (StateM σ)} {model : Call → Reply} {first last : Tree}
  {r : PublishedRun σ} {runs : List (PublishedRun σ)}

/-- A run of a suite in some files may end, and be published, in this way. -/
def Publishes (s : Suite (StateM σ)) (before : Tree) (r : PublishedRun σ) : Prop :=
  ∃ run, s.Ends r.selection (s.TaskRuns r.clock) before run ∧
    (publish s.output run).result = .ok r.summary ∧ (publish s.output run).tree = r.tree

/-- Runs of a suite that are all published, each in the files that the one before it left. -/
inductive PublishesAll (s : Suite (StateM σ)) (first : Tree) : List (PublishedRun σ) → Tree → Prop
  | none : PublishesAll s first [] first
  | next {runs : List (PublishedRun σ)} {before : Tree} {r : PublishedRun σ}
      (earlier : PublishesAll s first runs before) (publishes : s.Publishes before r) :
      PublishesAll s first (runs ++ [r]) r.tree

theorem publishes_of_ends {clock : Clock (StateM σ)} {selection : Selection} {run : Run Summary}
    {summary : Summary} (ended : s.Ends selection (s.TaskRuns clock) before run)
    (published : (publish s.output run).result = .ok summary) :
    s.Publishes before ⟨clock, selection, summary, (publish s.output run).tree⟩ :=
  ⟨run, ended, published, rfl⟩

/-- A run that succeeds has made its directories. -/
theorem Ends.exists_prepared {selection : Selection} {Runs : Task → Tree → Run β → Prop}
    {run : Run (Register β)} {register : Register β} (ended : s.Ends selection Runs tree run)
    (succeeded : run.result = .ok register) :
    ∃ prepared, s.prepare selection tree = (none, prepared) := by
  cases ended with
  | unprepared failed => cases succeeded
  | finished ready _ _ => exact ⟨_, ready⟩

theorem Publishes.confined (h : s.Publishes before r) :
    s.Confined r.selection [markdownFile, jsonFile] before r.tree := by
  obtain ⟨run, ended, -, left⟩ := h
  exact left ▸ ended.confined.publish

/-- A published run in an open tree leaves what the next run depends on, in an open tree. -/
theorem Publishes.leaves
    (functional : ∀ call reply, Answers s.model call reply → reply = model call)
    (isOpen : s.Open before) (h : s.Publishes before r) :
    s.Leaves model r.clock r.selection r.summary r.tree ∧ s.Open r.tree := by
  obtain ⟨run, ended, published, left⟩ := h
  obtain ⟨succeeded, -, -⟩ := (published_publish s.output run).keeps published
  obtain ⟨prepared, ready⟩ := ended.exists_prepared succeeded
  obtain ⟨made, base, first, admits, confined, slots⟩ := isOpen.slots ready
  have leaves := leaves_of_slots functional ready slots ended published
  have later := (ended.confined_of_prepare confined ready).publish
  rw [left] at leaves later
  exact ⟨leaves, r.tree, base, Tree.makeDirectories_again first later.grown, admits.later later⟩

namespace PublishesAll

theorem isOpen (functional : ∀ call reply, Answers s.model call reply → reply = model call)
    (isOpen : s.Open first) (h : s.PublishesAll first runs last) : s.Open last := by
  induction h with
  | none => exact isOpen
  | next _ publishes ih => exact (publishes.leaves functional ih).2

/-- The last of several runs leaves what it published. -/
theorem leaves_last (functional : ∀ call reply, Answers s.model call reply → reply = model call)
    (isOpen : s.Open first) (h : s.PublishesAll first runs last) (ends : runs.getLast? = some r) :
    s.Leaves model r.clock r.selection r.summary last := by
  cases h with
  | none => cases ends
  | next earlier publishes =>
    rw [List.getLast?_concat] at ends
    obtain rfl := Option.some.inj ends
    exact (publishes.leaves functional (earlier.isOpen functional isOpen)).1

/-- A log stays as the last run that selected its task has left it. -/
theorem log (functional : ∀ call reply, Answers s.model call reply → reply = model call)
    (isOpen : s.Open first) (h : s.PublishesAll first runs last) (mem : t ∈ s.tasks)
    {earlier later : List (PublishedRun σ)} (split : runs = earlier ++ r :: later)
    (included : r.selection.includes t.name = true)
    (excluded : ∀ other ∈ later, other.selection.includes t.name = false) :
    ∃ attempts, t.Attempted (fun _ => model) (Told r.clock) attempts ∧
      s.Recorded r.tree t attempts ∧ s.Recorded last t attempts := by
  induction h generalizing later with
  | none => simp at split
  | @next runs before final before_runs publishes ih =>
    rcases List.eq_nil_or_concat' later with rfl | ⟨others, other, rfl⟩
    · obtain rfl : final = r := List.head_eq_of_cons_eq (List.append_inj' split rfl).2
      have left := (publishes.leaves functional (before_runs.isOpen functional isOpen)).1
      obtain ⟨attempts, attempted, recorded⟩ := left.logs t (s.mem_selected.mpr ⟨mem, included⟩)
      exact ⟨attempts, attempted, recorded, recorded⟩
    · -- the final run does not select the task
      rw [← List.cons_append, ← List.append_assoc] at split
      obtain ⟨rfl, same⟩ := List.append_inj' split rfl
      obtain rfl : final = other := List.head_eq_of_cons_eq same
      obtain ⟨attempts, attempted, there, recorded⟩ := ih rfl fun another mem =>
        excluded another (List.mem_append_left _ mem)
      have skipped := excluded final (by simp)
      exact ⟨attempts, attempted, there, recorded.unselected mem skipped publishes.confined⟩

end PublishesAll

/-- **Running a suite again reproduces it.** Let the logs of a suite be writable in some files, and
let the replies of its model be a function of the calls. Let any number of runs of it, each with a
clock and a selection of its own, be published one after the other, from these files. If one more
run is published, then another run of the same tasks in what that one left, whenever it is, is
published too, with the same summary, and the files are the same but for the times in the logs of
these tasks. The summaries are those of the last run, and the log of each task is that of the last
run that selected it. -/
theorem rerun_reproduces (s : Suite (StateM σ)) (model : Call → Reply) (first : Tree)
    (functional : ∀ call reply, Answers s.model call reply → reply = model call)
    (writable : s.Writable .all first) {runs : List (PublishedRun σ)} {last : Tree}
    (published : s.PublishesAll first runs last) :
    (∀ r, s.Publishes last r → ∀ clock run,
      s.Ends r.selection (s.TaskRuns clock) r.tree run →
        (publish s.output run).result = .ok r.summary ∧
        s.SameButTimes r.selection r.tree (publish s.output run).tree) ∧
    (∀ r, runs.getLast? = some r →
      last.readText (Path.join s.output markdownFile) = .ok r.summary.markdown ∧
      last.readText (Path.join s.output jsonFile) = .ok r.summary.toJson.pretty) ∧
    ∀ t ∈ s.tasks, ∀ earlier r later, runs = earlier ++ r :: later →
      r.selection.includes t.name = true →
      (∀ other ∈ later, other.selection.includes t.name = false) →
      ∃ attempts, t.Attempted (fun _ => model) (Told r.clock) attempts ∧
        s.Recorded r.tree t attempts ∧ s.Recorded last t attempts := by
  have isOpen := writable.isOpen
  refine ⟨?_, ?_, ?_⟩
  · intro r publishes clock run ended
    have left := (publishes.leaves functional (published.isOpen functional isOpen)).1
    obtain ⟨succeeds, left'⟩ := left.again functional ended
    exact ⟨succeeds, left.sameButTimes left' ended.confined.publish⟩
  · intro r ends
    have left := published.leaves_last functional isOpen ends
    exact ⟨left.markdown.readText, left.json.readText⟩
  · intro t mem earlier r later split included excluded
    exact published.log functional isOpen mem split included excluded

/-- The run of both tasks. -/
def bothRun (tree : Tree) : Run Summary :=
  (((twins .isolate).run (pure 0) .all tree : StateM Unit (Run Summary)).run ()).1

/-- The run of both tasks is published twice with the same summary, and a run of the second task
leaves the log of the first one. -/
theorem rerun_reproduces_twins : ∃ both points : PublishedRun Unit,
    both.selection = .all ∧ (twins .isolate).Publishes (.empty []) both ∧
      points.selection = .only ["points"] ∧ (twins .isolate).Publishes both.tree points ∧
      (publish "out" (bothRun both.tree)).result = .ok both.summary ∧
      ∃ attempts, (twins .isolate).Recorded both.tree Task.mixed attempts ∧
        (twins .isolate).Recorded points.tree Task.mixed attempts := by
  have functional : ∀ call reply, Answers (twins .isolate).model call reply →
      reply = Task.halfFailing call := by
    rintro call reply ⟨_, rfl⟩
    rfl
  have ends (tree : Tree) : (twins .isolate).Ends .all ((twins .isolate).TaskRuns (pure 0)) tree
      (bothRun tree) := run_ends _ _ _ _ ()
  let output := (twins .isolate).output
  have succeeds : (publish output (bothRun (.empty []))).result.isOk = true := by decide +kernel
  have succeeds' : (publish output (pointsRun
      (publish output (bothRun (.empty []))).tree)).result.isOk = true := by decide +kernel
  obtain ⟨summary, result⟩ := isOk_iff_exists.mp succeeds
  obtain ⟨summary', result'⟩ := isOk_iff_exists.mp succeeds'
  have one := publishes_of_ends (ends (.empty [])) result
  have two := publishes_of_ends (pointsRun_ends _) result'
  obtain ⟨again, -, -⟩ := rerun_reproduces (twins .isolate) Task.halfFailing (.empty []) functional
    writable_twins .none
  obtain ⟨-, -, logs⟩ := rerun_reproduces (twins .isolate) Task.halfFailing (.empty []) functional
    writable_twins ((PublishesAll.none.next one).next two)
  obtain ⟨attempts, -, recorded⟩ := logs Task.mixed List.mem_cons_self [] _ [_] rfl rfl
    (List.forall_mem_singleton.mpr rfl)
  exact ⟨_, _, rfl, one, rfl, two, (again _ one (pure 0) _ (ends _)).1, attempts, recorded⟩

end Assay.Suite
