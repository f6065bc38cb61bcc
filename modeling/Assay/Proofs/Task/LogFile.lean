import Assay.Proofs.Files.Slots
import Assay.Proofs.Task.Conclusion
import Assay.Proofs.Task.Log

/-!
# Logs in files

A log is written and read back through a file of its directory. Main statement: a list of traces is
written into any directory that a file can be written into, and only there; whatever the file held
before, it then holds the lines of these traces and nothing else, which are read back as the same
list; and no other place of the tree changes.
-/

namespace Assay.Log

open Files

theorem slot_path {tree : Tree} {directory : String} {base : Place}
    (ready : tree.Writable directory fileName base) :
    tree.slot (path directory) = .ok (base ++ [fileName]) :=
  (Tree.slot_join_eq_ok_iff (by decide) (by decide) (by decide)).mpr ⟨base, rfl, ready⟩

/-- A log can be written exactly into the directories that a file of its name can be written into,
whatever the traces are. -/
theorem exists_write_iff {tree : Tree} {directory : String} (traces : List Trace) :
    (∃ after, write tree directory traces = .ok after) ↔
      ∃ base, tree.Writable directory fileName base := by
  constructor
  · rintro ⟨after, wrote⟩
    cases slot : tree.slot (path directory) with
    | error e =>
      rw [write_of_slot_error slot] at wrote
      cases wrote
    | ok place =>
      obtain ⟨base, -, ready⟩ :=
        (Tree.slot_join_eq_ok_iff (by decide) (by decide) (by decide)).mp slot
      exact ⟨base, ready⟩
  · rintro ⟨base, ready⟩
    exact ⟨_, write_of_slot (slot_path ready) traces⟩

/-- **Logs are read back from their files.** A log can be written wherever a file can. In such a
directory, whatever the file held before, it holds one line for each trace afterwards and nothing
else, the traces are read back as they were and in order, and no other place has changed. -/
theorem log_round_trip (tree : Tree) (directory : String) {traces : List Trace}
    (legible : ∀ t ∈ traces, t.timing.Legible) :
    ((∃ after, write tree directory traces = .ok after) ↔
        ∃ base, tree.Writable directory fileName base) ∧
      ∀ base, tree.Writable directory fileName base →
        ∃ after, write tree directory traces = .ok after ∧ read after directory = .ok traces ∧
          after.look (base ++ [fileName]) = some (.file (.text (text traces))) ∧
          lines (text traces).toList = traces.map Trace.lineChars ∧
          ∀ place, place ≠ base ++ [fileName] → after.look place = tree.look place := by
  refine ⟨exists_write_iff traces, ?_⟩
  intro base ready
  have slot := slot_path ready
  have stands : (tree.put (base ++ [fileName]) (.file (.text (text traces)))).look
      (base ++ [fileName]) = some (.file (.text (text traces))) := Tree.look_put_self ready.free
  refine ⟨_, write_of_slot slot traces, ?_, stands, ?_, ?_⟩
  · exact read_of_slot legible (Tree.slot_put_file slot ready.free) stands
  · rw [text, String.toList_ofList, lines_chars]
  · exact fun place other => Tree.look_put_of_ne other

/-- A trace with line breaks, quotes and no duration, and one of a call that failed, in a leap
second, for no stated reason. -/
def awkwardTraces : List Trace := [
  ⟨"a\r\n\"b\".c", ⟨⟨⟨1969, 7, 20⟩, 20, 17, 40, 0⟩, none⟩, some "[\u2028\\\x00\r", true, none⟩,
  ⟨"", ⟨⟨⟨2016, 12, 31⟩, 23, 59, 60, 500000000⟩, some 18446744073709551615⟩, none, false, some ""⟩]

/-- The two traces are read back from a file that held the bytes of something else. -/
theorem log_round_trip_awkward :
    let tree : Tree := ⟨[], [(["logs"], .directory),
      (["logs", "predictions.jsonl"], .file (.bytes [255, 10, 255, 10]))]⟩
    tree.Writable "./logs/" fileName ["logs"] ∧
      ∃ after, write tree "./logs/" awkwardTraces = .ok after ∧
        read after "./logs/" = .ok awkwardTraces := by
  intro tree
  have ready : tree.Writable "./logs/" fileName ["logs"] :=
    ⟨by decide +kernel, by decide +kernel, by decide +kernel, by decide +kernel⟩
  have legible : ∀ t ∈ awkwardTraces, t.timing.Legible := by
    simp only [awkwardTraces, List.forall_mem_cons]
    refine ⟨⟨by decide +kernel, by decide⟩, ⟨by decide +kernel, ?_⟩, by simp⟩
    rintro n ⟨⟩
    decide
  obtain ⟨after, wrote, reads, -⟩ := (log_round_trip tree "./logs/" legible).2 ["logs"] ready
  exact ⟨ready, after, wrote, reads⟩

end Assay.Log
