import Assay.Proofs.Files.Writing
import Assay.Proofs.FirstFailure
import Assay.Proofs.Json.Records
import Assay.Proofs.Time.Timestamp
import Assay.Task.Log

/-!
# Logs are read back

A trace is read back from its line, whatever texts are in it: a written text has no line breaks, so
lines of a log are those of its traces, and each of them is a record whose members fill its fields.
This needs a time whose text is read back (`Timing.Legible`), as it is if the year is a known one. So
a log that was written is read back as it is.
-/

namespace Assay

/-! ## Traces -/

/-- The times of a trace are such as a log can hold. -/
structure Timing.Known (timing : Timing) : Prop where
  start : timing.start.Known
  milliseconds : ∀ n, timing.milliseconds = some n → n < Json.significandLimit

/-- The text of a time is read back, and so is the number of its milliseconds. -/
structure Timing.Legible (timing : Timing) : Prop where
  start : Timestamp.parse timing.start.chars = .ok timing.start
  milliseconds : ∀ n, timing.milliseconds = some n → n < Json.significandLimit

theorem Timing.Known.legible {timing : Timing} (h : timing.Known) : timing.Legible :=
  ⟨Timestamp.parse_chars h.start, h.milliseconds⟩

/-- The time between two readings of a clock can be logged, if the clock knows the years. -/
theorem Timing.known_between {start finish : Nat}
    (known : Date.inRange (Timestamp.ofEpochNanoseconds start).date.year = true)
    (known' : Date.inRange (Timestamp.ofEpochNanoseconds finish).date.year = true) :
    (Timing.between start finish).Known where
  start := Timestamp.known_ofEpochNanoseconds known
  milliseconds := by
    intro n took
    have bound : finish / 1000000 < Json.significandLimit := Timestamp.lt_of_inRange known'
    simp only [Timing.between] at took
    split at took
    · cases took
    · next forward =>
      have took := Option.some.inj took
      rcases Nat.le_total start finish with le | le
      · rw [Int.tdiv_eq_ediv_of_nonneg (by omega)] at took
        omega
      · have back : ((finish : Int) - start).tdiv 1000000 =
            -((start : Int) - finish).tdiv 1000000 := by
          rw [← Int.neg_tdiv, Int.neg_sub]
        have least : 0 ≤ ((start : Int) - finish).tdiv 1000000 :=
          Int.tdiv_nonneg (by omega) (by decide)
        omega

namespace Trace

open Json (compactChars quoteChars EndsNumber)
open Json.Format (Fills)

/-- The member of a field that may be absent. -/
def optional (name : String) (value : Option Json) : List (String × Json) :=
  match value with
  | some v => [(name, v)]
  | none => []

/-- The members of a trace after the first. -/
def members (t : Trace) : List (String × Json) :=
  ("start", .str t.timing.start.text) ::
    (optional "duration_ms" (t.timing.milliseconds.map fun n => .num (.int n)) ++
    (optional "output" (t.output.map .str) ++
    (("parsed", .bool t.parsed) :: optional "error" (t.error.map .str))))

theorem toJson_eq (t : Trace) : t.toJson = .obj (("program", .str t.program) :: t.members) := by
  simp only [toJson, members, List.append_assoc, List.cons_append, List.nil_append]
  rfl

/-- The draft of a trace that has all its fields. -/
def draft (t : Trace) : Draft where
  program := some t.program
  start := some t.timing.start
  milliseconds := t.timing.milliseconds.map some
  output := t.output.map some
  parsed := some t.parsed
  error := t.error.map some

theorem ofDraft?_draft (t : Trace) : ofDraft? t.draft = some t := by
  obtain ⟨program, ⟨start, milliseconds⟩, output, parsed, error⟩ := t
  cases milliseconds <;> cases output <;> cases error <;> rfl

theorem readStart_text {start : Timestamp} (legible : Timestamp.parse start.chars = .ok start)
    (rest : List Char) :
    readStart (quoteChars start.text.toList ++ rest) = .ok (start, rest) := by
  rw [readStart, Json.quoteChars_append, Json.skipBlanks_cons (by decide)]
  simp only [bind, Except.bind]
  rw [Json.stringBody_escaped]
  simp only [Timestamp.text, String.toList_ofList, legible]

theorem nodup_names : (format.fields.map Json.Field.name).Nodup := by
  decide

/-- A member whose value the field of its name reads fills that field. -/
theorem fills_field (place : Nat) {name : String} {required : Bool} {get : Draft → Option β}
    {set : Draft → β → Draft} {read : List Char → Except Json.Fault (β × List Char)}
    (found : format.fields[place]? = some (field name required get set read))
    {d last : Draft} (absent : get d = none) {value : Json} {b : β}
    (reads : ∀ {rest}, EndsNumber rest → read (compactChars value ++ rest) = .ok (b, rest))
    {members : List (String × Json)} (others : format.Fills (set d b) members last) :
    format.Fills d ((name, value) :: members) last := by
  refine .cons (Json.Format.find?_name nodup_names (List.mem_of_getElem? found)) ?_ ?_ others
  · show (get d).isSome = false
    rw [absent]
    rfl
  · intro rest ends
    show (read (compactChars value ++ rest)).map _ = _
    rw [reads ends]
    rfl

theorem readString_str (text : String) (rest : List Char) :
    Json.readString (compactChars (.str text) ++ rest) = .ok (text, rest) := by
  rw [compactChars]
  exact Json.readString_quoteChars text rest

theorem readOption_str (text : String) (rest : List Char) :
    Json.readOption Json.readString (compactChars (.str text) ++ rest) =
      .ok (some text, rest) := by
  have reads := Json.readString_quoteChars text rest
  rw [Json.quoteChars_append] at reads
  rw [compactChars, Json.quoteChars_append]
  exact Json.readOption_of_read (by decide) (by decide) reads

theorem readOption_num {n : Nat} (fits : n < Json.significandLimit) {rest : List Char}
    (ends : EndsNumber rest) :
    Json.readOption Json.readNat (compactChars (.num (.int n)) ++ rest) = .ok (some n, rest) := by
  have reads := Json.readNat_digits fits ends
  obtain ⟨d, ds, written⟩ := List.exists_cons_of_ne_nil (Decimal.digits_ne_nil n)
  have digit : Decimal.isDigit d = true :=
    Decimal.isDigit_of_mem_digits n d (written ▸ List.mem_cons_self)
  have text : compactChars (.num (.int n)) = d :: ds := by
    rw [compactChars, ← written]
    rfl
  rw [written, List.cons_append] at reads
  rw [text, List.cons_append]
  exact Json.readOption_of_read (Json.of_isDigit digit).1 (Json.of_isDigit digit).2.2 reads

theorem readStart_str {start : Timestamp} (legible : Timestamp.parse start.chars = .ok start)
    (rest : List Char) :
    readStart (compactChars (.str start.text) ++ rest) = .ok (start, rest) := by
  rw [compactChars]
  exact readStart_text legible rest

/-- The members of a trace fill the fields of an empty draft. -/
theorem fills (t : Trace) (legible : t.timing.Legible) :
    format.Fills .empty (("program", .str t.program) :: t.members) t.draft := by
  obtain ⟨program, ⟨start, milliseconds⟩, output, parsed, error⟩ := t
  -- the drafts before and after each of the members that may be absent
  have took : format.Fills ⟨some program, some start, none, none, none, none⟩
      (optional "duration_ms" (milliseconds.map fun n => .num (.int n)))
      ⟨some program, some start, milliseconds.map some, none, none, none⟩ := by
    cases milliseconds with
    | none => exact .nil
    | some n => exact fills_field 2 rfl rfl (readOption_num (legible.milliseconds n rfl)) .nil
  have gave : format.Fills ⟨some program, some start, milliseconds.map some, none, none, none⟩
      (optional "output" (output.map .str))
      ⟨some program, some start, milliseconds.map some, output.map some, none, none⟩ := by
    cases output with
    | none => exact .nil
    | some text => exact fills_field 3 rfl rfl (fun _ => readOption_str text _) .nil
  have failed : format.Fills
      ⟨some program, some start, milliseconds.map some, output.map some, some parsed, none⟩
      (optional "error" (error.map .str))
      ⟨some program, some start, milliseconds.map some, output.map some, some parsed,
        error.map some⟩ := by
    cases error with
    | none => exact .nil
    | some text => exact fills_field 5 rfl rfl (fun _ => readOption_str text _) .nil
  refine fills_field 0 rfl rfl (fun _ => readString_str _ _) ?_
  refine fills_field 1 rfl rfl (fun _ => readStart_str legible.start _) ?_
  refine took.append (gave.append ?_)
  exact fills_field 4 rfl rfl (fun _ => Json.readBool_compactChars _ _) failed

/-- **A trace is read back from its line.** -/
theorem ofLine_lineChars (t : Trace) (legible : t.timing.Legible) :
    ofLine (String.ofList t.lineChars) = .ok t := by
  have filled : format.Filled t.draft := by
    intro field mem required
    simp only [format, List.mem_cons, List.not_mem_nil, or_false] at mem
    rcases mem with rfl | rfl | rfl | rfl | rfl | rfl
    · rfl
    · rfl
    · cases required
    · cases required
    · rfl
    · cases required
  have reads := (t.fills legible).ofText filled
  rw [← toJson_eq] at reads
  simp only [ofLine, lineChars, ← Json.compact.eq_1, reads, bind, Except.bind, ofDraft?_draft]

/-! ## Lines -/

theorem printable_members (members : List (String × Json))
    (h : ∀ m ∈ members, ∀ x ∈ compactChars m.2, 32 ≤ x.toNat) :
    ∀ x ∈ Json.compactMembers members, 32 ≤ x.toNat := by
  induction members with
  | nil =>
    rw [Json.compactMembers]
    exact Json.printable_of_all rfl
  | cons m members ih =>
    obtain ⟨name, value⟩ := m
    have others := ih fun m mem => h m (List.mem_cons_of_mem _ mem)
    intro x mem
    simp only [Json.compactMembers, List.mem_cons, List.mem_append] at mem
    rcases mem with rfl | mem | rfl | mem | mem
    · decide
    · exact Json.printable_quoteChars _ x mem
    · decide
    · exact h _ List.mem_cons_self x mem
    · exact others x mem

/-- Every member of a trace is written without control characters. -/
theorem printable_of_mem (t : Trace) :
    ∀ m ∈ ("program", .str t.program) :: t.members, ∀ x ∈ compactChars m.2, 32 ≤ x.toNat := by
  have string (s : String) : ∀ x ∈ compactChars (.str s), 32 ≤ x.toNat := by
    rw [compactChars]
    exact Json.printable_quoteChars s.toList
  have number (n : Nat) : ∀ x ∈ compactChars (.num (.int n)), 32 ≤ x.toNat := by
    rw [compactChars]
    exact Json.printable_digits n
  have truth (b : Bool) : ∀ x ∈ compactChars (.bool b), 32 ≤ x.toNat := by
    cases b with
    | true => exact Json.printable_of_all rfl
    | false => exact Json.printable_of_all rfl
  obtain ⟨program, ⟨start, milliseconds⟩, output, parsed, error⟩ := t
  intro m mem
  simp only [members, List.mem_cons, List.mem_append] at mem
  rcases mem with rfl | rfl | mem | mem | rfl | mem
  · exact string program
  · exact string start.text
  · cases milliseconds with
    | none => cases mem
    | some n =>
      rw [List.mem_singleton.mp mem]
      exact number n
  · cases output with
    | none => cases mem
    | some text =>
      rw [List.mem_singleton.mp mem]
      exact string text
  · exact truth parsed
  · cases error with
    | none => cases mem
    | some text =>
      rw [List.mem_singleton.mp mem]
      exact string text

/-- A line begins with the brace of its object, which its members and the other brace follow. -/
theorem lineChars_eq (t : Trace) : ∃ text, t.lineChars = '\x7b' :: text ∧
    Json.compactMembers (("program", .str t.program) :: t.members) = ',' :: text := by
  refine ⟨quoteChars "program".toList ++
    ':' :: (compactChars (.str t.program) ++ Json.compactMembers t.members), ?_, ?_⟩
  · simp only [lineChars, toJson_eq, compactChars]
  · simp only [Json.compactMembers]

theorem getLast?_compactMembers (members : List (String × Json)) :
    (Json.compactMembers members).getLast? = some '\x7d' := by
  induction members with
  | nil =>
    rw [Json.compactMembers]
    rfl
  | cons m members ih =>
    obtain ⟨name, value⟩ := m
    rw [Json.compactMembers]
    have split : ',' :: (quoteChars name.toList ++ ':' :: (compactChars value ++
        Json.compactMembers members)) =
        (',' :: (quoteChars name.toList ++ ':' :: compactChars value)) ++
          Json.compactMembers members := by simp
    rw [split, List.getLast?_append, ih]
    rfl

/-- No line has a line break in it, and none ends in a carriage return. -/
theorem lineChars_oneLine (t : Trace) : '\n' ∉ t.lineChars ∧ t.lineChars.getLast? ≠ some '\r' := by
  obtain ⟨text, written, members⟩ := t.lineChars_eq
  have printable := printable_members _ t.printable_of_mem
  have last := getLast?_compactMembers (("program", .str t.program) :: t.members)
  rw [members] at printable last
  have some : text ≠ [] := by
    rintro rfl
    exact absurd last (by decide)
  rw [written]
  constructor
  · intro mem
    rcases List.mem_cons.mp mem with brace | mem
    · exact absurd brace (by decide)
    · exact absurd (printable '\n' (List.mem_cons_of_mem _ mem)) (by decide)
  · rw [List.getLast?_cons_of_ne_nil some] at last ⊢
    rw [last]
    decide

end Trace

/-! ## Logs -/

namespace Log

/-- Lines that were each ended by a line break are the lines of the text. -/
theorem splitOn_flatMap {ls : List (List Char)} (h : ∀ l ∈ ls, '\n' ∉ l) :
    (ls.flatMap fun l => l ++ ['\n']).splitOn '\n' = ls ++ [[]] := by
  induction ls with
  | nil => exact List.splitOn_nil '\n'
  | cons l ls ih =>
    rw [List.flatMap_cons, List.append_assoc, List.singleton_append,
      List.splitOn_append_cons_self_of_not_mem (h l List.mem_cons_self),
      ih fun l' mem => h l' (List.mem_cons_of_mem l mem)]
    rfl

theorem lines_chars (traces : List Trace) : lines (chars traces) = traces.map Trace.lineChars := by
  have ended : chars traces = (traces.map Trace.lineChars).flatMap fun l => l ++ ['\n'] := by
    rw [chars, List.flatMap_map]
  have oneLine : ∀ l ∈ traces.map Trace.lineChars, '\n' ∉ l := by
    intro l mem
    obtain ⟨t, -, rfl⟩ := List.mem_map.mp mem
    exact t.lineChars_oneLine.1
  have kept : (traces.map Trace.lineChars).map dropReturn = traces.map Trace.lineChars := by
    rw [List.map_map]
    refine List.map_congr_left ?_
    intro t _
    show dropReturn t.lineChars = t.lineChars
    rw [dropReturn, if_neg t.lineChars_oneLine.2]
  rw [lines, ended, splitOn_flatMap oneLine, List.reverse_append]
  have last : ([] : List Char).isEmpty = true := rfl
  show (if ([] : List Char).isEmpty = true then
    ((traces.map Trace.lineChars).reverse).reverse.map dropReturn else _) = _
  rw [if_pos last, List.reverse_reverse, kept]

/-- **A log is read back from its text.** -/
theorem ofText_text {traces : List Trace} (legible : ∀ t ∈ traces, t.timing.Legible) :
    ofText (text traces) = .ok traces := by
  have content : (traces.map Trace.lineChars).filter hasContent =
      traces.map Trace.lineChars := by
    rw [List.filter_eq_self]
    intro l mem
    obtain ⟨t, -, rfl⟩ := List.mem_map.mp mem
    obtain ⟨text, written, -⟩ := t.lineChars_eq
    rw [written, hasContent, List.any_cons]
    rfl
  rw [ofText, text, String.toList_ofList, lines_chars, content, List.zipIdx_map, List.mapM_map]
  have reads : ∀ e ∈ traces.zipIdx, ((fun (e : List Char × Nat) =>
      inContext ("Invalid JSON on line " ++ toString (e.2 + 1))
        ((Trace.ofLine (String.ofList e.1)).mapError fun message =>
          Failure.of (.json message))) ∘ Prod.map Trace.lineChars id) e = .ok e.1 := by
    rintro ⟨t, place⟩ mem
    have found : t ∈ traces := List.mem_of_getElem? (List.mk_mem_zipIdx_iff_getElem?.mp mem)
    simp only [Function.comp, Prod.map, id, t.ofLine_lineChars (legible t found)]
    rfl
  refine (mapM_eq_ok reads).trans ?_
  rw [List.zipIdx_map_fst]

/-- **A log that was written is read back**, as long as nothing was written over it. -/
theorem read_of_slot {tree : Files.Tree} {directory : String} {place : Files.Place}
    {traces : List Trace} (legible : ∀ t ∈ traces, t.timing.Legible)
    (h : tree.slot (path directory) = .ok place)
    (found : tree.look place = some (.file (.text (text traces)))) :
    read tree directory = .ok traces := by
  rw [read, Files.Tree.readText_of_slot h found]
  exact ofText_text legible

end Log

end Assay
