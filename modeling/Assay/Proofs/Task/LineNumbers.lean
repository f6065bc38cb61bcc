import Assay.Proofs.Files.Writing
import Assay.Proofs.FirstFailure
import Assay.Task.Log

/-!
# Lines of a log and their numbers

Reading a log passes over its blank lines, and of the other lines it counts those that it comes to.
Main statement: for every text of a log, if each line that is not blank holds a trace, these traces
are the result, in order. Else there is no trace in the result, but the first line that holds none
and is not blank is reported, by a number that falls short of the number of this line in the file by
as many as there are blank lines before it. So the number is right just when there is none.
-/

namespace Assay.Log

/-! ## Lines -/

/-- What lines a text has. A line break ends a line, with the carriage return before it if there is
one, and no other line ends in that. What follows the last line break is a line if it is not empty. -/
inductive Lines : List Char → List (List Char) → Prop
  | none : Lines [] []
  | last {line : List Char} (some : line ≠ []) (unbroken : '\n' ∉ line) : Lines line [line]
  | ended {line text : List Char} {others : List (List Char)} (unbroken : '\n' ∉ line)
      (bare : line.getLast? ≠ some '\r') (later : Lines text others) :
      Lines (line ++ '\n' :: text) (line :: others)
  | returned {line text : List Char} {others : List (List Char)} (unbroken : '\n' ∉ line)
      (later : Lines text others) : Lines (line ++ '\r' :: '\n' :: text) (line :: others)

theorem lines_nil : lines [] = [] := by
  rw [lines, List.splitOn_nil]
  rfl

theorem lines_last {line : List Char} (some : line ≠ []) (unbroken : '\n' ∉ line) :
    lines line = [line] := by
  rw [lines, List.splitOn_eq_singleton unbroken]
  show (if line.isEmpty = true then _ else [line]) = [line]
  rw [if_neg (by rwa [List.isEmpty_iff])]

theorem lines_append {line : List Char} (unbroken : '\n' ∉ line) (text : List Char) :
    lines (line ++ '\n' :: text) = dropReturn line :: lines text := by
  rw [lines, List.splitOn_append_cons_self_of_not_mem unbroken, List.reverse_cons, lines]
  cases parts : (text.splitOn '\n').reverse with
  | nil => exact absurd (List.reverse_eq_nil_iff.mp parts) (List.splitOn_ne_nil _ _)
  | cons last ended =>
    simp only [List.cons_append, List.reverse_append, List.reverse_cons, List.reverse_nil,
      List.nil_append, List.map_cons]
    split
    · rfl
    · rfl

theorem dropReturn_of_bare {line : List Char} (bare : line.getLast? ≠ some '\r') :
    dropReturn line = line :=
  if_neg bare

theorem dropReturn_concat (line : List Char) : dropReturn (line ++ ['\r']) = line := by
  rw [dropReturn, if_pos List.getLast?_concat, List.dropLast_concat]

theorem Lines.lines_eq {text : List Char} {ls : List (List Char)} (h : Lines text ls) :
    lines text = ls := by
  induction h with
  | none => exact lines_nil
  | last some unbroken => exact lines_last some unbroken
  | ended unbroken bare _ ih => rw [lines_append unbroken, dropReturn_of_bare bare, ih]
  | @returned line text others unbroken _ ih =>
    have unbroken' : '\n' ∉ line ++ ['\r'] := by
      simpa [List.mem_append] using unbroken
    have split : line ++ '\r' :: '\n' :: text = (line ++ ['\r']) ++ '\n' :: text := by simp
    rw [split, lines_append unbroken', dropReturn_concat, ih]

/-- Every text has lines. -/
theorem Lines.of_text (text : List Char) : Lines text (lines text) := by
  by_cases broken : '\n' ∈ text
  · obtain ⟨line, rest, split, unbroken⟩ := List.eq_append_cons_of_mem broken
    have shorter : rest.length < text.length := by
      rw [split, List.length_append, List.length_cons]
      omega
    have later := Lines.of_text rest
    rw [split, lines_append unbroken]
    by_cases bare : line.getLast? = some '\r'
    · obtain ⟨line, rfl⟩ := List.getLast?_eq_some_iff.mp bare
      rw [dropReturn_concat, List.append_assoc]
      exact .returned (fun mem => unbroken (List.mem_append_left _ mem)) later
    · rw [dropReturn_of_bare bare]
      exact .ended unbroken bare later
  · by_cases some : text = []
    · rw [some, lines_nil]
      exact .none
    · rw [lines_last some broken]
      exact .last some broken
  termination_by text.length

/-- The lines that a log is read by are those of its text. -/
theorem lines_eq_iff {text : List Char} {ls : List (List Char)} :
    lines text = ls ↔ Lines text ls := by
  constructor
  · rintro rfl
    exact .of_text text
  · exact Lines.lines_eq

/-! ## Numbers -/

/-- A line holds a trace. -/
def Holds (line : List Char) (trace : Trace) : Prop :=
  Trace.ofLine (String.ofList line) = .ok trace

/-- What reading makes of a line and its place. -/
def readLine (entry : List Char × Nat) : Except Failure Trace :=
  inContext ("Invalid JSON on line " ++ toString (entry.2 + 1))
    ((Trace.ofLine (String.ofList entry.1)).mapError fun message => .of (.json message))

theorem ofText_eq (text : String) :
    ofText text = ((lines text.toList).filter hasContent).zipIdx.mapM readLine := rfl

theorem readLine_eq_ok_iff {entry : List Char × Nat} {trace : Trace} :
    readLine entry = .ok trace ↔ Holds entry.1 trace := by
  exact mapError_eq_ok.trans mapError_eq_ok

theorem readLine_of_error {line : List Char} {message : String} (place : Nat)
    (failed : Trace.ofLine (String.ofList line) = .error message) :
    readLine (line, place) =
      .error ⟨.note ("Invalid JSON on line " ++ toString (place + 1)), [.json message]⟩ := by
  rw [readLine, failed]
  rfl

theorem read_of_text {tree : Files.Tree} {directory text : String}
    (held : tree.readText (path directory) = .ok text) : read tree directory = ofText text := by
  rw [read, held]
  rfl

/-- Lines that each hold a trace are read as these traces. -/
theorem mapM_readLine_eq_ok_iff {ls : List (List Char)} {traces : List Trace} (start : Nat) :
    (ls.zipIdx start).mapM readLine = .ok traces ↔ List.Forall₂ Holds ls traces := by
  rw [mapM_eq_ok_iff]
  simp only [readLine_eq_ok_iff]
  rw [← List.forall₂_map_left_iff (f := Prod.fst), List.zipIdx_map_fst]

/-- The first line that holds no trace is reported, with the number of lines up to it. -/
theorem mapM_readLine_of_error {before after : List (List Char)} {line : List Char}
    {message : String} (valid : ∀ l ∈ before, ∃ trace, Holds l trace)
    (failed : Trace.ofLine (String.ofList line) = .error message) :
    (before ++ line :: after).zipIdx.mapM readLine = .error
      ⟨.note ("Invalid JSON on line " ++ toString (before.length + 1)), [.json message]⟩ := by
  rw [List.zipIdx_append, List.zipIdx_cons, Nat.zero_add]
  refine mapM_eq_error_iff.mpr ⟨_, _, _, rfl, ?_, readLine_of_error _ failed⟩
  rintro ⟨l, place⟩ mem
  obtain ⟨trace, holds⟩ := valid l (List.fst_mem_of_mem_zipIdx mem)
  exact ⟨trace, readLine_eq_ok_iff.mpr holds⟩

theorem filter_hasContent {before after : List (List Char)} {line : List Char}
    (content : hasContent line = true) :
    (before ++ line :: after).filter hasContent =
      before.filter hasContent ++ line :: after.filter hasContent := by
  rw [List.filter_append, List.filter_cons_of_pos content]

/-- The lines before a line are those with content and the blank ones. -/
theorem length_filter_hasContent (before : List (List Char)) :
    (before.filter hasContent).length + before.countP (!hasContent ·) = before.length := by
  rw [← List.countP_eq_length_filter, List.length_eq_countP_add_countP hasContent]
  simp

/-- **The number of a malformed line counts the lines that are not blank.** A log is read as the
traces of its lines that are not blank, if each of these holds one. Else the first of them that holds
none is reported, and the number told and the number of blank lines before it are together its number
in the file. -/
theorem malformed_line_number {tree : Files.Tree} {directory text : String}
    (held : tree.readText (path directory) = .ok text) :
    ∃ ls, (∀ other, Lines text.toList other ↔ other = ls) ∧
      (∀ traces, read tree directory = .ok traces ↔
        List.Forall₂ Holds (ls.filter hasContent) traces) ∧
      ((∃ traces, read tree directory = .ok traces) ↔
        ∀ line ∈ ls, hasContent line = true → ∃ trace, Holds line trace) ∧
      ∀ before line after message, ls = before ++ line :: after →
        (∀ l ∈ before, hasContent l = true → ∃ trace, Holds l trace) →
        hasContent line = true → Trace.ofLine (String.ofList line) = .error message →
        ∃ told, read tree directory = .error
            ⟨.note ("Invalid JSON on line " ++ toString told), [.json message]⟩ ∧
          told + before.countP (!hasContent ·) = before.length + 1 := by
  have reads (traces : List Trace) : read tree directory = .ok traces ↔
      List.Forall₂ Holds ((lines text.toList).filter hasContent) traces := by
    rw [read_of_text held, ofText_eq, mapM_readLine_eq_ok_iff]
  refine ⟨lines text.toList, fun other => lines_eq_iff.symm.trans eq_comm, reads, ?_, ?_⟩
  · simp only [reads, exists_forall₂_iff, List.mem_filter, and_imp]
  · intro before line after message split valid content failed
    refine ⟨(before.filter hasContent).length + 1, ?_, ?_⟩
    · rw [read_of_text held, ofText_eq, split, filter_hasContent content]
      refine mapM_readLine_of_error ?_ failed
      intro l mem
      exact valid l (List.mem_filter.mp mem).1 (List.mem_filter.mp mem).2
    · have counted := length_filter_hasContent before
      omega

/-- A text in which an empty line stands before one that holds no trace. -/
def secondLineText : String :=
  String.ofList ['\n', '\x7b', '\n']

/-- The directory of a log with this text. -/
def secondLineTree : Files.Tree :=
  ⟨[], [(["log"], .directory), (["log", "predictions.jsonl"], .file (.text secondLineText))]⟩

/-- What is wrong with its second line. -/
def unclosed : String :=
  "EOF while parsing an object at line 1 column 1"

theorem lines_secondLineText : lines secondLineText.toList = [[], ['\x7b']] := by
  decide +kernel

theorem ofLine_secondLine : Trace.ofLine (String.ofList ['\x7b']) = .error unclosed := by
  decide +kernel

/-- Its second line is reported as the first one. -/
theorem malformed_line_number_second :
    secondLineTree.readText (path "log") = .ok secondLineText ∧
      read secondLineTree "log" =
        .error ⟨.note ("Invalid JSON on line " ++ toString 1), [.json unclosed]⟩ := by
  have held : secondLineTree.readText (path "log") = .ok secondLineText := by decide +kernel
  obtain ⟨ls, unique, -, -, first⟩ := malformed_line_number held
  have same : [[], ['\x7b']] = ls := (unique _).mp (lines_eq_iff.mp lines_secondLineText)
  obtain ⟨told, read, counted⟩ := first [[]] ['\x7b'] [] unclosed same.symm (by simp [hasContent])
    (by decide) ofLine_secondLine
  have one : told = 1 := by simpa [hasContent] using counted
  exact ⟨held, one ▸ read⟩

/-- Of the two lines the second is the first that is not blank and holds no trace, but what is told
is not its number. -/
theorem read_second_line_as_first :
    secondLineTree.readText (path "log") = .ok secondLineText ∧
      Lines secondLineText.toList [[], ['\x7b']] ∧ hasContent [] = false ∧
      hasContent ['\x7b'] = true ∧ (¬ ∃ trace, Holds ['\x7b'] trace) ∧
      ¬ ∃ e, read secondLineTree "log" = .error e ∧
        e.outermost.message = "Invalid JSON on line " ++ toString 2 := by
  refine ⟨by decide +kernel, lines_eq_iff.mp lines_secondLineText, rfl, by decide, ?_, ?_⟩
  · rintro ⟨trace, holds⟩
    rw [Holds, ofLine_secondLine] at holds
    cases holds
  · rintro ⟨e, failed, told⟩
    have reads : read secondLineTree "log" =
        .error ⟨.note ("Invalid JSON on line " ++ toString 1), [.json unclosed]⟩ := by
      decide +kernel
    rw [reads] at failed
    obtain rfl := Except.error.inj failed
    exact absurd told (by decide)

end Assay.Log
