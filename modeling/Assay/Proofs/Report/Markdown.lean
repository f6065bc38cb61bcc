import Assay.Proofs.Decimal.Fixed
import Assay.Proofs.Suite.Composition
import Assay.Proofs.Task.Log

/-!
# What is read from a markdown summary

A markdown summary is a text of lines: a heading for each task, a bullet for each metric, and empty
lines around the headings. The lines can be told apart by how they begin, and the value of a bullet
is what follows its last blank, so nothing in the name of a metric is mistaken for it. Main
statement: the tasks, their metrics and the values with three decimal places are read back from the
text. So two summaries have one text just when they differ in further digits only.

The reader goes through the lines from the last one to the first, and keeps the bullets for the
heading that is still to come.
-/

namespace Assay.Summary

variable {s : Summary}

/-! ## Reading -/

/-- A metric and the text of its value. -/
abbrev Bullet := String × String

/-- A task with its bullets. -/
abbrev Section := String × List Bullet

/-- The bullet of a line without its mark: the value follows the last blank, and a colon and that
blank follow the name. -/
def readBullet (cs : List Char) : Bullet :=
  let back := cs.reverse
  (String.ofList ((back.dropWhile fun c => c != ' ').drop 2).reverse,
    String.ofList (back.takeWhile fun c => c != ' ').reverse)

/-- Reads one more line in front of others, of which the bullets without a heading and the sections
are known. -/
def readLine (line : List Char) (read : List Bullet × List Section) :
    List Bullet × List Section :=
  match line with
  | '*' :: ' ' :: bullet => (readBullet bullet :: read.1, read.2)
  | '#' :: '#' :: ' ' :: task => ([], (String.ofList task, read.1) :: read.2)
  | _ => read

/-- The sections of a markdown text. -/
def readMarkdown (text : String) : List Section :=
  ((text.toList.splitOn '\n').foldr readLine ([], [])).2

/-- The tasks of a summary, for each its metrics, and for each of these its value with three decimal
places, all of them in order. -/
def rounded (s : Summary) : List Section :=
  s.entries.map fun t => (t.1, t.2.entries.map fun e => (e.1, valueText e.2))

/-! ## Lines -/

/-- The line of a metric. -/
def bulletLine (b : Bullet) : List Char :=
  ['*', ' '] ++ b.1.toList ++ [':', ' '] ++ b.2.toList

/-- The lines of a task and of its metrics. -/
def sectionLines (t : Section) : List (List Char) :=
  [[], ['#', '#', ' '] ++ t.1.toList] ++ [] :: t.2.map bulletLine

/-- The lines of some sections. -/
def linesOf (sections : List Section) : List (List Char) :=
  sections.flatMap sectionLines

/-- A markdown text has no more in it than the sections that it shows. -/
theorem markdownChars_eq_lines (s : Summary) :
    markdownChars s = (linesOf s.rounded).flatMap fun line => line ++ ['\n'] := by
  rw [linesOf, rounded, List.flatMap_map, List.flatMap_assoc]
  unfold markdownChars
  congr 1
  funext t
  show ['\n', '#', '#', ' '] ++ t.1.toList ++ ['\n', '\n'] ++ bullets t.2 = _
  have bulletLines : bullets t.2 =
      (t.2.entries.map fun e => (e.1, valueText e.2)).flatMap fun b => bulletLine b ++ ['\n'] := by
    rw [List.flatMap_map]
    rfl
  rw [bulletLines]
  simp [sectionLines, List.flatMap_map]

/-- The task names are identifiers, and the metric names have no line break. -/
structure WellNamed (s : Summary) : Prop where
  tasks : ∀ t ∈ s.entries, Suite.IsIdentifier t.1
  metrics : ∀ t ∈ s.entries, ∀ name ∈ t.2.names, '\n' ∉ name.toList

instance (s : Summary) : Decidable s.WellNamed :=
  decidable_of_iff ((∀ t ∈ s.entries, Suite.isIdentifier t.1 = true) ∧
      ∀ t ∈ s.entries, ∀ name ∈ t.2.names, '\n' ∉ name.toList) (by
    simp only [Suite.isIdentifier_iff]
    exact ⟨fun h => ⟨h.1, h.2⟩, fun h => ⟨h.tasks, h.metrics⟩⟩)

theorem newline_notMem_of_isIdentifier {name : String} (h : Suite.IsIdentifier name) :
    '\n' ∉ name.toList := by
  obtain ⟨first, rest, chars, begins, others⟩ := h
  have noLetter : ¬ Suite.IsLetter '\n' := by
    unfold Suite.IsLetter
    decide
  rw [chars, List.mem_cons, not_or]
  constructor
  · rintro rfl
    exact noLetter begins
  · intro mem
    rcases others _ mem with letter | digit
    · exact noLetter letter
    · exact absurd digit (by decide)

/-- Nothing but digits and marks occurs in the text of a value. -/
theorem notMem_valueText {c : Char} (noDigit : Decimal.isDigit c = false)
    (noMark : c ∉ Decimal.fixedMarks) (x : Float) : c ∉ (valueText x).toList := by
  rw [valueText, Decimal.fixed, String.toList_ofList]
  exact Decimal.notMem_fixedChars noDigit noMark 3 x

/-- No line of a summary is broken. -/
theorem newline_notMem_lines (h : s.WellNamed) : ∀ line ∈ linesOf s.rounded, '\n' ∉ line := by
  intro line mem
  obtain ⟨_, shown, mem⟩ := List.mem_flatMap.mp mem
  obtain ⟨t, there, rfl⟩ := List.mem_map.mp shown
  simp only [sectionLines, List.mem_append, List.mem_cons, List.not_mem_nil, or_false] at mem
  rcases mem with (rfl | rfl) | rfl | mem
  · simp
  · simpa using newline_notMem_of_isIdentifier (h.tasks t there)
  · simp
  · obtain ⟨_, bullet, rfl⟩ := List.mem_map.mp mem
    obtain ⟨e, inside, rfl⟩ := List.mem_map.mp bullet
    have name := h.metrics t there e.1 (List.mem_map_of_mem inside)
    have value : '\n' ∉ (valueText e.2).toList := notMem_valueText (by decide) (by decide) e.2
    simpa [bulletLine] using ⟨name, value⟩

/-! ## Reading what was written -/

/-- The value of a bullet begins after its last blank, whatever blanks the name has. -/
theorem readBullet_written {b : Bullet} (solid : ' ' ∉ b.2.toList) :
    readBullet (b.1.toList ++ [':', ' '] ++ b.2.toList) = b := by
  have solid' : ∀ c ∈ b.2.toList.reverse, (c != ' ') = true := by
    intro c mem
    exact bne_iff_ne.mpr (ne_of_mem_of_not_mem (List.mem_reverse.mp mem) solid)
  have back : (b.1.toList ++ [':', ' '] ++ b.2.toList).reverse =
      b.2.toList.reverse ++ ' ' :: ':' :: b.1.toList.reverse := by
    simp
  unfold readBullet
  rw [back]
  dsimp only
  rw [List.takeWhile_append_of_pos solid', List.dropWhile_append_of_pos solid']
  simp

theorem foldr_bulletLines {bs : List Bullet} (solid : ∀ b ∈ bs, ' ' ∉ b.2.toList)
    (read : List Bullet × List Section) :
    (bs.map bulletLine).foldr readLine read = (bs ++ read.1, read.2) := by
  induction bs with
  | nil => rfl
  | cons b bs ih =>
    obtain ⟨first, others⟩ := List.forall_mem_cons.mp solid
    rw [List.map_cons, List.foldr_cons, ih others]
    show (readBullet (b.1.toList ++ [':', ' '] ++ b.2.toList) :: _, _) = _
    rw [readBullet_written first]
    rfl

/-- The lines of a task are read as one section, with no bullets left for the lines before it. -/
theorem foldr_sectionLines {t : Section} (solid : ∀ b ∈ t.2, ' ' ∉ b.2.toList)
    (sections : List Section) :
    (sectionLines t).foldr readLine ([], sections) = ([], t :: sections) := by
  show readLine (['#', '#', ' '] ++ t.1.toList)
    ((t.2.map bulletLine).foldr readLine ([], sections)) = _
  rw [foldr_bulletLines solid, List.append_nil]
  show ([], (String.ofList t.1.toList, t.2) :: sections) = _
  rw [String.ofList_toList]

theorem foldr_linesOf {sections : List Section}
    (solid : ∀ t ∈ sections, ∀ b ∈ t.2, ' ' ∉ b.2.toList) :
    (linesOf sections).foldr readLine ([], []) = ([], sections) := by
  induction sections with
  | nil => rfl
  | cons t sections ih =>
    obtain ⟨first, others⟩ := List.forall_mem_cons.mp solid
    rw [linesOf, List.flatMap_cons, List.foldr_append]
    show (sectionLines t).foldr readLine ((linesOf sections).foldr readLine ([], [])) = _
    rw [ih others, foldr_sectionLines first]

/-- The tasks, metrics and rounded values are read back from the text. -/
theorem readMarkdown_markdown (h : s.WellNamed) : readMarkdown s.markdown = s.rounded := by
  have solid : ∀ t ∈ s.rounded, ∀ b ∈ t.2, ' ' ∉ b.2.toList := by
    intro _ shown b bullet
    obtain ⟨t, -, rfl⟩ := List.mem_map.mp shown
    obtain ⟨e, -, rfl⟩ := List.mem_map.mp bullet
    exact notMem_valueText (by decide) (by decide) e.2
  -- the text ends after a line break, so there is an empty line below all others
  have lines : (markdownChars s).splitOn '\n' = linesOf s.rounded ++ [[]] := by
    rw [markdownChars_eq_lines, Log.splitOn_flatMap (newline_notMem_lines h)]
  rw [readMarkdown, markdown, String.toList_ofList, lines, List.foldr_append]
  show ((linesOf s.rounded).foldr readLine ([], [])).2 = s.rounded
  rw [foldr_linesOf solid]

/-- **A markdown summary loses nothing but digits.** Let the tasks of two summaries be named by
identifiers, and let no metric have a line break in its name. They have the same markdown text if
and only if they list the same tasks in the same order, and for each task the same metrics in the
same order with the same values as far as three decimal places show them. All this is read back
from the text, of a task without metrics as well. -/
theorem markdown_eq_iff {s s' : Summary} (named : s.WellNamed) (named' : s'.WellNamed) :
    (s.markdown = s'.markdown ↔ s.rounded = s'.rounded) ∧ readMarkdown s.markdown = s.rounded := by
  refine ⟨⟨?_, ?_⟩, readMarkdown_markdown named⟩
  · intro same
    have read := congrArg readMarkdown same
    rwa [readMarkdown_markdown named, readMarkdown_markdown named'] at read
  · intro same
    rw [markdown, markdown, markdownChars_eq_lines, markdownChars_eq_lines, same]

/-- Metrics whose names look like headings, bullets and values, and a task without metrics. -/
def confusable (x : Float) : Summary :=
  .ofList [("a", .ofList [("## b", x), ("f1: 0.500", 0 / 0), ("* f1", -0.0), ("", 1)]),
    ("b", .empty)]

theorem markdown_eq_iff_confusable :
    (confusable 0.25).WellNamed ∧ (confusable 0.2504).WellNamed ∧
      (confusable 0.25).markdown = (confusable 0.2504).markdown ∧
      readMarkdown (confusable 0.25).markdown =
        [("a", [("## b", "0.250"), ("f1: 0.500", "NaN"), ("* f1", "-0.000"), ("", "1.000")]),
          ("b", [])] := by
  have named : (confusable 0.25).WellNamed := by decide +kernel
  have named' : (confusable 0.2504).WellNamed := by decide +kernel
  have same : (confusable 0.25).rounded = (confusable 0.2504).rounded := by decide +kernel
  obtain ⟨texts, read⟩ := markdown_eq_iff named named'
  refine ⟨named, named', texts.mpr same, read.trans ?_⟩
  decide +kernel

end Assay.Summary
