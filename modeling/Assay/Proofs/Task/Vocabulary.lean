import Assay.Task.Vocabulary
import Assay.Proofs.Register
import Assay.Proofs.Text.Folded
import Mathlib.Data.List.Infix
import Mathlib.Data.List.Nodup

/-!
# Texts that are taken for a name

The values of an enumerated field have names in capitals of ASCII, and a description may write them
with blanks around them and in either case. Main statement: a text that writes a name so is taken
for its value, and so is a text in which a character beyond ASCII stands for letters of the name
that it becomes in upper case, as the dotless i does for an I. For each field it is told which
characters these are; without them a text is taken for a value just when it writes its name. All
other texts are reported as they are, with what messages call the field.
-/

namespace Assay

namespace Vocabulary

/-- A character that names are written with: one of ASCII, but no small letter and no blank. -/
def isCapital (c : Char) : Bool :=
  decide (c.toNat < 128) && c.toUpper == c && !Text.isBlank c

theorem isCapital_iff {c : Char} :
    isCapital c = true ↔ c.toNat < 128 ∧ c.toUpper = c ∧ Text.isBlank c = false := by
  simp [isCapital, and_assoc]

/-- A table in which each value has one name, and a name is in capitals of ASCII. -/
structure WellFormed (v : Vocabulary τ) : Prop where
  distinct : (v.table.map Prod.fst).Nodup
  single : (v.table.map Prod.snd).Nodup
  complete : ∀ value, value ∈ v.table.map Prod.snd
  capital : ∀ e ∈ v.table, e.1.toList.all isCapital = true

/-- The characters beyond ASCII that become letters of a name in upper case. -/
def strays (v : Vocabulary τ) : List Char :=
  (Text.lookalikes.filter fun e => v.table.any fun n => e.2 <:+: n.1.toList).map Prod.fst

theorem mem_strays_iff {v : Vocabulary τ} {c : Char} :
    c ∈ v.strays ↔ ∃ letters n, (c, letters) ∈ Text.lookalikes ∧ n ∈ v.table ∧
      letters <:+: n.1.toList := by
  simp only [strays, List.mem_map, List.mem_filter, List.any_eq_true, decide_eq_true_eq]
  constructor
  · rintro ⟨⟨c, letters⟩, ⟨like, n, named, inside⟩, rfl⟩
    exact ⟨letters, n, like, named, inside⟩
  · rintro ⟨letters, n, like, named, inside⟩
    exact ⟨(c, letters), ⟨like, n, named, inside⟩, rfl⟩

section
variable [DecidableEq τ]

/-- A text that writes the name of a value, with blanks around it perhaps and in either case. -/
def Writes (v : Vocabulary τ) (text : String) (value : τ) : Prop :=
  ∃ core, Text.Stripped text.toList core ∧ Text.SameLetters core (v.nameOf value).toList

/-- A text that reads as the name of a value, with blanks around it perhaps. -/
def Reads (v : Vocabulary τ) (text : String) (value : τ) : Prop :=
  ∃ core, Text.Stripped text.toList core ∧ Text.ReadsAs core (v.nameOf value).toList

/-- A field that goes by the names of its values in what it makes of a text. -/
structure Keeps (v : Vocabulary τ) (field text : String) : Prop where
  found : ∀ value, v.find text = .ok value ↔ v.Writes text value
  unknown : (¬ ∃ value, v.Writes text value) → v.find text = .error (.unknownVariant field text)

/-- What a field makes of a text, and when it goes by the names of its values: if nothing else reads
as one of them, and so whenever the text has none of the strays in it. These are the characters
beyond ASCII, other than blanks at the ends, that there are in the texts that are found. -/
structure Judges (v : Vocabulary τ) (field : String) (strays : List Char) (text : String) :
    Prop where
  found : ∀ value, v.find text = .ok value ↔ v.Reads text value
  unknown : (¬ ∃ value, v.Reads text value) → v.find text = .error (.unknownVariant field text)
  written : ∀ value, v.Writes text value → v.Reads text value
  kept : v.Keeps field text ↔ ∀ value, v.Reads text value → v.Writes text value
  plain : (∀ c ∈ strays, c ∉ text.toList) → v.Keeps field text
  needed : ∀ c, c ∈ strays ↔ 128 ≤ c.toNat ∧ ∃ text value core, v.find text = .ok value ∧
    Text.Stripped text.toList core ∧ c ∈ core

omit [DecidableEq τ] in
theorem find_eq_ok_iff {v : Vocabulary τ} {text : String} {value : τ} :
    v.find text = .ok value ↔ v.table.lookup (folded text) = some value := by
  unfold find
  split
  · next found => simp [found]
  · next none => simp [none]

omit [DecidableEq τ] in
theorem find_of_not_found {v : Vocabulary τ} {text : String}
    (none : ∀ value, v.find text ≠ .ok value) :
    v.find text = .error (.unknownVariant v.field text) := by
  cases result : v.find text with
  | ok value => exact absurd result (none value)
  | error e =>
    unfold find at result
    split at result
    · cases result
    · exact result.symm

namespace WellFormed

variable {v : Vocabulary τ} (wf : v.WellFormed)
include wf

theorem nameOf_mem (value : τ) : (v.nameOf value, value) ∈ v.table := by
  obtain ⟨e, mem, same⟩ := List.mem_map.mp (wf.complete value)
  cases first : v.table.find? fun e => decide (e.2 = value) with
  | none =>
    have := List.find?_eq_none.mp first e mem
    simp [same] at this
  | some found =>
    obtain ⟨name, other⟩ := found
    have found : (name, other) ∈ v.table := List.mem_of_find?_eq_some first
    have same : other = value := by simpa using List.find?_some first
    rw [nameOf, first]
    exact same ▸ found

/-- The names of the table are those of its values. -/
theorem mem_table_iff {name : String} {value : τ} :
    (name, value) ∈ v.table ↔ name = v.nameOf value := by
  constructor
  · intro mem
    have same := List.inj_on_of_nodup_map wf.single mem (wf.nameOf_mem value) rfl
    exact congrArg Prod.fst same
  · rintro rfl
    exact wf.nameOf_mem value

theorem isCapital_of_mem {value : τ} {c : Char} (mem : c ∈ (v.nameOf value).toList) :
    c.toNat < 128 ∧ c.toUpper = c ∧ Text.isBlank c = false :=
  isCapital_iff.mp (List.all_eq_true.mp (wf.capital _ (wf.nameOf_mem value)) c mem)

theorem ascii (value : τ) : ∀ c ∈ (v.nameOf value).toList, c.toNat < 128 :=
  fun _ mem => (wf.isCapital_of_mem mem).1

theorem capitals (value : τ) :
    (v.nameOf value).toList.map Char.toUpper = (v.nameOf value).toList := by
  have same : ∀ c ∈ (v.nameOf value).toList, c.toUpper = c :=
    fun _ mem => (wf.isCapital_of_mem mem).2.1
  rw [List.map_congr_left same, List.map_id']

/-- A value is found when the text, without the blanks at its ends, reads as its name. -/
theorem found (text : String) (value : τ) : v.find text = .ok value ↔ v.Reads text value := by
  have lookup : v.table.lookup (folded text) = some value ↔ (folded text, value) ∈ v.table :=
    (Register.mem_entries_iff (r := ⟨v.table, wf.distinct⟩)).symm
  have same : folded text = v.nameOf value ↔
      Text.ReadsAs (Text.trim text.toList) (v.nameOf value).toList := by
    rw [← Text.upper_eq_iff (wf.ascii value), folded, ← String.toList_inj, String.toList_ofList]
  rw [find_eq_ok_iff, lookup, wf.mem_table_iff, same]
  simp only [Reads, ← Text.trim_eq_iff, exists_eq_left']

theorem reads_of_writes {text : String} {value : τ} (writes : v.Writes text value) :
    v.Reads text value := by
  obtain ⟨core, stripped, same⟩ := writes
  refine ⟨core, stripped, ?_⟩
  have letters : core.map Char.toUpper = (v.nameOf value).toList := same.trans (wf.capitals value)
  exact letters ▸ Text.readsAs_map_toUpper core

/-- A character beyond ASCII in a text that is accepted is one of the strays. -/
theorem mem_strays {core : List Char} {value : τ}
    (reads : Text.ReadsAs core (v.nameOf value).toList) {c : Char} (mem : c ∈ core)
    (beyond : 128 ≤ c.toNat) : c ∈ v.strays := by
  obtain ⟨letters, like, inside⟩ := reads.infix_of_mem (wf.ascii value) mem beyond
  exact mem_strays_iff.mpr ⟨letters, _, like, wf.nameOf_mem value, inside⟩

/-- Without strays a text that is accepted writes the name. -/
theorem writes_of_reads {text : String} {value : τ} (none : ∀ c ∈ v.strays, c ∉ text.toList)
    (reads : v.Reads text value) : v.Writes text value := by
  obtain ⟨core, stripped, reads⟩ := reads
  refine ⟨core, stripped, ?_⟩
  have ascii : ∀ c ∈ core, c.toNat < 128 := by
    intro c mem
    by_contra beyond
    refine none c (wf.mem_strays reads mem (Nat.le_of_not_lt beyond)) ?_
    obtain ⟨⟨front, back, whole, -, -⟩, -, -⟩ := stripped
    rw [whole]
    exact List.mem_append_left _ (List.mem_append_right _ mem)
  exact (reads.map_toUpper ascii).trans (wf.capitals value).symm

/-- Each stray occurs in a text that reads as a name: the name with the stray for letters of it. -/
theorem exists_reads_of_mem_strays {c : Char} (mem : c ∈ v.strays) :
    ∃ value core, Text.ReadsAs core (v.nameOf value).toList ∧ Text.Stripped core core ∧
      c ∈ core := by
  obtain ⟨letters, ⟨name, value⟩, like, named, before, after, split⟩ := mem_strays_iff.mp mem
  obtain rfl := wf.mem_table_iff.mp named
  have capital : ∀ d ∈ before ++ letters ++ after, d.toUpper = d ∧ Text.isBlank d = false := by
    rw [split]
    exact fun d mem => (wf.isCapital_of_mem mem).2
  refine ⟨value, before ++ c :: after, ?_, ?_, by simp⟩
  · rw [← split, List.append_assoc]
    refine .append (Text.readsAs_self fun d mem => (capital d (by simp [mem])).1) ?_
    exact .lookalike like (Text.readsAs_self fun d mem => (capital d (by simp [mem])).1)
  · apply Text.stripped_self
    intro d mem
    rcases List.mem_append.mp mem with mem | mem
    · exact (capital d (by simp [mem])).2
    rcases List.mem_cons.mp mem with rfl | mem
    · exact Text.isBlank_of_lookalike _ like
    · exact (capital d (by simp [mem])).2

/-- The strays are the characters beyond ASCII that occur in texts that are accepted. -/
theorem mem_strays_iff_found {c : Char} :
    c ∈ v.strays ↔ 128 ≤ c.toNat ∧ ∃ text value core, v.find text = .ok value ∧
      Text.Stripped text.toList core ∧ c ∈ core := by
  constructor
  · intro mem
    obtain ⟨letters, -, like, -⟩ := mem_strays_iff.mp mem
    obtain ⟨value, core, reads, stripped, there⟩ := wf.exists_reads_of_mem_strays mem
    have stripped' : Text.Stripped (String.ofList core).toList core := by
      rw [String.toList_ofList]
      exact stripped
    have found := (wf.found _ value).mpr ⟨core, stripped', reads⟩
    exact ⟨Text.beyond_of_lookalike _ like, _, value, core, found, stripped', there⟩
  · rintro ⟨beyond, text, value, core, found, stripped, mem⟩
    obtain ⟨core', stripped', reads⟩ := (wf.found text value).mp found
    obtain rfl := stripped.trim_eq.symm.trans stripped'.trim_eq
    exact wf.mem_strays reads mem beyond

theorem unknown {text : String} (none : ¬ ∃ value, v.Reads text value) :
    v.find text = .error (.unknownVariant v.field text) := by
  apply find_of_not_found
  intro value found
  exact none ⟨value, (wf.found text value).mp found⟩

theorem keeps_iff {text : String} :
    v.Keeps v.field text ↔ ∀ value, v.Reads text value → v.Writes text value := by
  constructor
  · intro keeps value reads
    exact (keeps.found value).mp ((wf.found text value).mpr reads)
  · intro only
    have same : ∀ value, v.Reads text value ↔ v.Writes text value :=
      fun value => ⟨only value, wf.reads_of_writes⟩
    refine ⟨fun value => (wf.found text value).trans (same value), ?_⟩
    intro none
    apply wf.unknown
    rintro ⟨value, reads⟩
    exact none ⟨value, only value reads⟩

theorem judges (text : String) : v.Judges v.field v.strays text where
  found := wf.found text
  unknown := wf.unknown
  written _ := wf.reads_of_writes
  kept := wf.keeps_iff
  plain none := wf.keeps_iff.mpr fun _ => wf.writes_of_reads none
  needed _ := wf.mem_strays_iff_found

end WellFormed

end

end Vocabulary

theorem TaskKind.wellFormed_vocabulary : TaskKind.vocabulary.WellFormed where
  distinct := by decide
  single := by decide
  complete := by rintro ⟨⟩ <;> decide
  capital := by decide

theorem Language.wellFormed_vocabulary : Language.vocabulary.WellFormed where
  distinct := by decide
  single := by decide
  complete := by rintro ⟨⟩ <;> decide
  capital := by decide

theorem Metric.wellFormed_vocabulary : Metric.vocabulary.WellFormed where
  distinct := by decide
  single := by decide
  complete := by rintro ⟨⟩ <;> decide
  capital := by decide

/-- **A few characters beyond ASCII pass for letters of a name.** Task types, languages and metrics
are found by texts that read as their names, and every other text is reported as it is. A text that
writes the name of a value, with blanks around it perhaps and in either case of its letters, is among
them, and a field goes by the names for each text that reads as no other. So it does for all texts
without the dotless i and the ligature of f and i in a task type, the long s in a language, and in a
metric the long s and the two ligatures of s and t; each of these does occur in texts that are found,
and no other character beyond ASCII but for blanks at the ends. -/
theorem enumerated_fields_accept_names (text : String) :
    TaskKind.vocabulary.Judges "task type" ['\u0131', '\ufb01'] text ∧
      Language.vocabulary.Judges "language" ['\u017f'] text ∧
      Metric.vocabulary.Judges "metric" ['\u017f', '\ufb05', '\ufb06'] text := by
  have kinds : TaskKind.vocabulary.strays = ['\u0131', '\ufb01'] := by decide
  have languages : Language.vocabulary.strays = ['\u017f'] := by decide
  have metrics : Metric.vocabulary.strays = ['\u017f', '\ufb05', '\ufb06'] := by decide
  refine ⟨?_, ?_, ?_⟩
  · exact kinds ▸ TaskKind.wellFormed_vocabulary.judges text
  · exact languages ▸ Language.wellFormed_vocabulary.judges text
  · exact metrics ▸ Metric.wellFormed_vocabulary.judges text

example : Metric.vocabulary.find "\u3000Clu\ufb06er_prf1\n" = .ok .clusterPrf1 := by
  decide

/-- A task type with a dotless i is found, although it writes the name of none. -/
theorem find_dotless :
    TaskKind.vocabulary.find "per_f\u0131le" = .ok .perFile ∧
      ∀ kind, ¬ TaskKind.vocabulary.Writes "per_f\u0131le" kind := by
  refine ⟨by decide, ?_⟩
  rintro kind ⟨core, stripped, same⟩
  have core_eq : core = "per_f\u0131le".toList := stripped.trim_eq.symm.trans (by decide)
  rw [core_eq] at same
  revert same
  cases kind <;> decide

end Assay
