import Assay.Proofs.Files.Slots
import Assay.Proofs.Suite.Footprint

/-!
# The published summaries

The two summaries of a run are written one after the other, the markdown first, and nothing that was
written is taken back. Main statement: a run that fails leaves both summaries as they were, unless it
fails because the JSON summary cannot be written; then the markdown summary is already that of this
run. After a run that succeeds both summaries tell of its results.

A summary counts as it was also when nothing stood at its place and the path of the output directory
leads through that place and up again, so that making the output directory makes one there.
-/

namespace Assay.Suite

open Files

/-! ## Publishing -/

/-- The failure of a summary that cannot be written. -/
def unwritten (output name : String) (e : FileError) : Failure :=
  (Failure.of (.file e)).within ("Failed to write " ++ Text.quotedPath (Path.join output name))

section
variable {output name : String} {tree : Tree}

theorem writeInto_of_slot {place : Place} (slot : tree.slot (Path.join output name) = .ok place)
    (text : String) :
    writeInto output name text tree = .ok (tree.put place (.file (.text text))) := by
  rw [writeInto, Tree.writeText_eq, slot]
  rfl

theorem writeInto_of_slot_error {e : FileError}
    (closed : tree.slot (Path.join output name) = .error e) (text : String) :
    writeInto output name text tree = .error (unwritten output name e) := by
  rw [writeInto, Tree.writeText_eq, closed]
  rfl

end

/-- How publishing a run may end. -/
inductive Published (output : String) (run : Run Summary) : Run Summary → Prop
  /-- There is nothing to publish, as the run has failed. -/
  | failed {f} (failed : run.result = .error f) : Published output run run
  /-- The markdown summary cannot be written, and the other one is not tried. -/
  | neither {summary e} (ready : run.result = .ok summary)
      (closed : run.tree.slot (Path.join output markdownFile) = .error e) :
      Published output run ⟨.error (unwritten output markdownFile e), run.tree, run.events⟩
  /-- The markdown summary was written, and the JSON summary cannot be. -/
  | markdown {summary place e} {after : Tree} (ready : run.result = .ok summary)
      (slot : run.tree.slot (Path.join output markdownFile) = .ok place)
      (wrote : after = run.tree.put place (.file (.text summary.markdown)))
      (closed : after.slot (Path.join output jsonFile) = .error e) :
      Published output run ⟨.error (unwritten output jsonFile e), after, run.events⟩
  /-- Both summaries were written. -/
  | both {summary place other} {middle : Tree} (ready : run.result = .ok summary)
      (slot : run.tree.slot (Path.join output markdownFile) = .ok place)
      (wrote : middle = run.tree.put place (.file (.text summary.markdown)))
      (slot' : middle.slot (Path.join output jsonFile) = .ok other) :
      Published output run
        ⟨.ok summary, middle.put other (.file (.text summary.toJson.pretty)), run.events⟩

theorem published_publish (output : String) (run : Run Summary) :
    Published output run (publish output run) := by
  unfold publish
  cases ready : run.result with
  | error f => exact .failed ready
  | ok summary =>
    dsimp only
    cases slot : run.tree.slot (Path.join output markdownFile) with
    | error e =>
      rw [writeInto_of_slot_error slot]
      exact .neither ready slot
    | ok place =>
      rw [writeInto_of_slot slot]
      dsimp only
      cases slot' : (run.tree.put place (.file (.text summary.markdown))).slot
          (Path.join output jsonFile) with
      | error e =>
        rw [writeInto_of_slot_error slot']
        exact .markdown ready slot rfl slot'
      | ok other =>
        rw [writeInto_of_slot slot']
        exact .both ready slot rfl slot'

/-- A run that has succeeded is published if both summaries have slots. -/
theorem publish_result_of_slots {output : String} {run : Run Summary} {summary : Summary}
    {place other : Place} (ready : run.result = .ok summary)
    (slot : run.tree.slot (Path.join output markdownFile) = .ok place)
    (slot' : run.tree.slot (Path.join output jsonFile) = .ok other) :
    (publish output run).result = .ok summary := by
  have still : (run.tree.put place (.file (.text summary.markdown))).slot
      (Path.join output jsonFile) = .ok other := Tree.slot_put_file slot' (Tree.slot_free slot)
  rw [publish, ready]
  dsimp only
  rw [writeInto_of_slot slot]
  dsimp only
  rw [writeInto_of_slot still]

/-! ## Summaries that were not written -/

/-- What may be at the place of a summary that a run has not written. -/
inductive Spared (s : Suite m) (before after : Tree) (place : Place) : Prop
  /-- It is as it was. -/
  | kept (same : after.look place = before.look place)
  /-- It was nothing, and it is a directory that the way to the output directory passes through,
  going up again. -/
  | passage {count} (free : before.look place = none) (made : after.look place = some .directory)
      (leads : after.along s.output count = .ok place) (climbs : .up ∈ Path.components s.output)

variable {s : Suite m} {selection : Selection} {before middle after : Tree} {base place : Place}
  {name : String}

theorem Spared.later (h : s.Spared before middle place) (grown : middle.Extends after)
    (same : after.look place = middle.look place) : s.Spared before after place := by
  cases h with
  | kept kept => exact .kept (same.trans kept)
  | passage free made leads climbs =>
    exact .passage free (same.trans made) (grown.along leads) climbs

/-- A run spares what is in its output directory under a name that no task can have. -/
theorem Confined.spared (h : s.Confined selection [] before after)
    (output : after.destination s.output = .ok base) (odd : isIdentifier name = false) :
    s.Spared before after (base ++ [name]) := by
  cases h.touched (base ++ [name]) with
  | kept same => exact .kept same
  | way free made leads => exact .passage free made leads (Tree.up_mem_of_along output leads)
  | taskDirectory selected output' child _ _ =>
    obtain rfl := Except.ok.inj (output.symm.trans output')
    have named := (List.cons.inj (List.append_cancel_left child)).1
    rw [named, s.isIdentifier_name (s.mem_selected.mp selected).1] at odd
    cases odd
  | log _ output' inside _ _ =>
    obtain rfl := Except.ok.inj (output.symm.trans output')
    have names := (List.cons.inj (List.append_cancel_left inside)).2
    cases names
  | summary published => cases published

/-- The way to an output directory may pass through the place of a summary of it. -/
example :
    let tree := ((Tree.empty []).makeDirectories "out/eval_summary.md/..").2
    tree.destination "out/eval_summary.md/.." = .ok ["out"] ∧
      tree.look ["out", "eval_summary.md"] = some .directory := by
  decide +kernel

/-- If publishing fails, the JSON summary was not written, and the markdown summary was written only
if the other one could not be. -/
theorem Published.of_error {run published : Run Summary} {f : Failure}
    (h : Published s.output run published) (confined : s.Confined selection [] before run.tree)
    (failed : published.result = .error f)
    (output : published.tree.destination s.output = .ok base) :
    s.Spared before published.tree (base ++ [jsonFile]) ∧
      (s.Spared before published.tree (base ++ [markdownFile]) ∨
        ∃ summary e, run.result = .ok summary ∧ f = unwritten s.output jsonFile e ∧
          published.tree.slot (Path.join s.output jsonFile) = .error e ∧
          published.tree.look (base ++ [markdownFile]) =
            some (.file (.text summary.markdown))) := by
  have markdown : isIdentifier markdownFile = false := by decide
  have json : isIdentifier jsonFile = false := by decide
  cases h with
  | failed _ => exact ⟨confined.spared output json, .inl (confined.spared output markdown)⟩
  | neither _ _ => exact ⟨confined.spared output json, .inl (confined.spared output markdown)⟩
  | @markdown summary place e after ready slot wrote closed =>
    obtain rfl : unwritten s.output jsonFile e = f := Except.error.inj failed
    -- the markdown summary stands where the output directory led before it was written
    obtain ⟨base', output', rfl⟩ := Tree.slot_join (by decide) slot
    have free := Tree.slot_free slot
    have grown := wrote ▸ Tree.Extends.put (.file (.text summary.markdown)) free
    obtain rfl := Except.ok.inj (output.symm.trans (grown.along output'))
    have apart : base ++ [jsonFile] ≠ base ++ [markdownFile] := by
      simp [jsonFile, markdownFile]
    refine ⟨(confined.spared output' json).later grown (wrote ▸ Tree.look_put_of_ne apart),
      .inr ⟨summary, e, ready, rfl, closed, ?_⟩⟩
    exact wrote ▸ Tree.look_put_self free
  | both _ _ _ _ => cases failed

/-- The slots of the two summaries are different places. -/
theorem slot_markdown_ne_slot_json {output : String} {tree tree' : Tree} {other : Place}
    (slot : tree.slot (Path.join output markdownFile) = .ok place)
    (slot' : tree'.slot (Path.join output jsonFile) = .ok other) : place ≠ other := by
  obtain ⟨base, -, rfl⟩ := Tree.slot_join (by decide) slot
  obtain ⟨base', -, rfl⟩ := Tree.slot_join (by decide) slot'
  intro same
  exact absurd (List.append_inj' same rfl).2 (by decide)

/-- If publishing succeeds, both summaries are kept. -/
theorem Published.keeps {run published : Run Summary} {summary : Summary} {output : String}
    (h : Published output run published) (succeeded : published.result = .ok summary) :
    run.result = .ok summary ∧
      published.tree.Keeps (Path.join output markdownFile) summary.markdown ∧
      published.tree.Keeps (Path.join output jsonFile) summary.toJson.pretty := by
  cases h with
  | failed failed =>
    rw [failed] at succeeded
    cases succeeded
  | neither _ _ => cases succeeded
  | markdown _ _ _ _ => cases succeeded
  | @both published place other middle ready slot wrote slot' =>
    obtain rfl : published = summary := Except.ok.inj succeeded
    have first : middle.Keeps (Path.join output markdownFile) published.markdown :=
      wrote ▸ Tree.keeps_put slot published.markdown
    refine ⟨ready, first.put (Tree.slot_free slot') ?_, Tree.keeps_put slot' _⟩
    intro same
    exact slot_markdown_ne_slot_json same slot' rfl

/-- If publishing succeeds, both summaries can be read. -/
theorem Published.of_ok {run published : Run Summary} {summary : Summary} {output : String}
    (h : Published output run published) (succeeded : published.result = .ok summary) :
    run.result = .ok summary ∧
      published.tree.readText (Path.join output markdownFile) = .ok summary.markdown ∧
      published.tree.readText (Path.join output jsonFile) = .ok summary.toJson.pretty := by
  obtain ⟨ready, markdown, json⟩ := h.keeps succeeded
  exact ⟨ready, markdown.readText, json.readText⟩

/-- **What becomes of the summaries.** Let a run end in any way. If publishing it fails, the JSON
summary is as it was, and so is the markdown summary, unless the JSON summary was what could not be
written: then the markdown summary tells of the results of the run. If it succeeds, both summaries
tell of them. The output directory leads where it did before, if it did lead anywhere. -/
theorem summaries_after_run {σ : Type} (s : Suite (StateM σ)) (clock : Clock (StateM σ))
    (selection : Selection) (tree : Tree) {run : Run Summary}
    (ended : s.Ends selection (s.TaskRuns clock) tree run) :
    let published := publish s.output run
    (∀ base, tree.destination s.output = .ok base →
        published.tree.destination s.output = .ok base) ∧
      (∀ f, published.result = .error f →
        ∀ base, published.tree.destination s.output = .ok base →
          s.Spared tree published.tree (base ++ [jsonFile]) ∧
          (s.Spared tree published.tree (base ++ [markdownFile]) ∨
            ∃ summary e, run.result = .ok summary ∧ f = unwritten s.output jsonFile e ∧
              published.tree.slot (Path.join s.output jsonFile) = .error e ∧
              published.tree.look (base ++ [markdownFile]) =
                some (.file (.text summary.markdown)))) ∧
      ∀ summary, published.result = .ok summary →
        run.result = .ok summary ∧
          published.tree.readText (Path.join s.output markdownFile) = .ok summary.markdown ∧
          published.tree.readText (Path.join s.output jsonFile) = .ok summary.toJson.pretty := by
  intro published
  have confined := ended.confined
  have ends : Published s.output run published := published_publish s.output run
  refine ⟨fun base leads => confined.publish.grown.along leads, ?_, ?_⟩
  · exact fun f failed base output => ends.of_error confined failed output
  · exact fun summary succeeded => ends.of_ok succeeded

/-- A tree with an earlier markdown summary, in which no JSON summary can be written. -/
def blockedTree : Tree where
  here := []
  entries := [(["out"], .directory),
    (["out", "eval_summary.md"], .file (.text "an earlier summary")),
    (["out", "eval_summary.json"], .directory)]

/-- The run of the second task alone. -/
def pointsRun (tree : Tree) : Run Summary :=
  (((twins .isolate).run (pure 0) (.only ["points"]) tree : StateM Unit (Run Summary)).run ()).1

theorem pointsRun_ends (tree : Tree) :
    (twins .isolate).Ends (.only ["points"]) ((twins .isolate).TaskRuns (pure 0)) tree
      (pointsRun tree) :=
  run_ends _ _ _ _ ()

theorem pointsRun_blocked :
    (publish "out" (pointsRun blockedTree)).result =
      .error (unwritten "out" jsonFile .isDirectory) := by
  rfl

/-- In an empty tree both summaries are written; if the one in JSON cannot be, it is as it was. -/
theorem summaries_after_run_points :
    (∃ summary : Summary,
        (publish "out" (pointsRun (.empty []))).tree.readText (Path.join "out" markdownFile) =
          .ok summary.markdown ∧
        (publish "out" (pointsRun (.empty []))).tree.readText (Path.join "out" jsonFile) =
          .ok summary.toJson.pretty) ∧
      (twins .isolate).Spared blockedTree (publish "out" (pointsRun blockedTree)).tree
        ["out", jsonFile] := by
  obtain ⟨-, -, written⟩ := summaries_after_run _ _ _ _ (pointsRun_ends (.empty []))
  obtain ⟨-, spared, -⟩ := summaries_after_run _ _ _ _ (pointsRun_ends blockedTree)
  have succeeds : (publish "out" (pointsRun (.empty []))).result.isOk = true := by decide +kernel
  constructor
  · cases ready : (publish "out" (pointsRun (.empty []))).result with
    | error f =>
      rw [ready] at succeeds
      cases succeeds
    | ok summary => exact ⟨summary, (written summary ready).2⟩
  · exact (spared _ pointsRun_blocked ["out"] (by decide +kernel)).1

/-- A run that fails because its JSON summary cannot be written has replaced the markdown summary. -/
theorem summary_replaced_by_failed_run :
    (twins .isolate).Ends (.only ["points"]) ((twins .isolate).TaskRuns (pure 0)) blockedTree
        (pointsRun blockedTree) ∧
      (publish "out" (pointsRun blockedTree)).result =
        .error (unwritten "out" jsonFile .isDirectory) ∧
      blockedTree.look ["out", markdownFile] = some (.file (.text "an earlier summary")) ∧
      (publish "out" (pointsRun blockedTree)).tree.look ["out", markdownFile] ≠
        some (.file (.text "an earlier summary")) :=
  ⟨pointsRun_ends blockedTree, pointsRun_blocked, by decide +kernel, by decide +kernel⟩

end Assay.Suite
