import Assay.Text.Blank
import Assay.Text.Upper
import Mathlib.Data.List.DropRight
import Mathlib.Data.List.TakeWhile

/-!
# Texts without blanks at their ends, and their capitals

A text is compared with a name after the blanks at its ends are dropped and the rest is put into
upper case. What is dropped is told by `Stripped`. As to the upper case there are ten characters
beyond ASCII that become letters of ASCII, and `ReadsAs` says which texts become a name: those that
have at each place a letter of the name, in either case, or one of these characters for the letters
that it becomes.
-/

namespace Assay.Text

/-! ## Blanks -/

/-- What is left of a text without the blanks at its ends. -/
structure Stripped (text core : List Char) : Prop where
  around : ∃ front back, text = front ++ core ++ back ∧ (∀ c ∈ front, isBlank c = true) ∧
    ∀ c ∈ back, isBlank c = true
  first : ∀ c ∈ core.head?, isBlank c = false
  last : ∀ c ∈ core.getLast?, isBlank c = false

theorem trim_eq_rdropWhile (text : List Char) :
    trim text = (text.dropWhile isBlank).rdropWhile isBlank := rfl

theorem stripped_trim (text : List Char) : Stripped text (trim text) := by
  have begun : text.takeWhile isBlank ++ text.dropWhile isBlank = text :=
    List.takeWhile_append_dropWhile
  have ended : trim text ++ (text.dropWhile isBlank).rtakeWhile isBlank = text.dropWhile isBlank :=
    List.rdropWhile_append_rtakeWhile
  refine ⟨⟨text.takeWhile isBlank, (text.dropWhile isBlank).rtakeWhile isBlank, ?_, ?_, ?_⟩, ?_, ?_⟩
  · rw [List.append_assoc, ended, begun]
  · intro c mem
    exact List.mem_takeWhile_imp mem
  · intro c mem
    exact List.mem_rtakeWhile_imp mem
  · -- the first character that is kept is also the first one after the blanks
    intro c kept
    have first : (text.dropWhile isBlank).head? = some c := by
      rw [← ended, List.head?_append, Option.mem_def.mp kept, Option.some_or]
    have found := List.head?_dropWhile_not isBlank text
    rw [first] at found
    simpa using found
  · intro c kept
    obtain ⟨front, same⟩ := List.getLast?_eq_some_iff.mp kept
    have some : (text.dropWhile isBlank).rdropWhile isBlank ≠ [] := by
      rw [← trim_eq_rdropWhile, same]
      simp
    have found := List.rdropWhile_last_not isBlank _ some
    simpa [← trim_eq_rdropWhile, same] using found

/-- Only one text is left. -/
theorem Stripped.trim_eq {text core : List Char} (h : Stripped text core) : trim text = core := by
  obtain ⟨⟨front, back, rfl, blank, blank'⟩, first, last⟩ := h
  rw [trim_eq_rdropWhile, List.append_assoc, List.dropWhile_append_of_pos blank]
  cases core with
  | nil =>
    rw [List.nil_append, List.dropWhile_eq_nil_iff.mpr blank', List.rdropWhile_nil]
  | cons c rest =>
    have kept : ¬ isBlank c = true := by simp [first c rfl]
    rw [List.cons_append, List.dropWhile_cons_of_neg kept, List.rdropWhile, ← List.cons_append,
      List.reverse_append, List.dropWhile_append_of_pos (by simpa using blank')]
    exact List.rdropWhile_eq_self_iff.mpr fun some => by
      simp [last _ (List.getLast?_eq_some_getLast some)]

/-- A text is trimmed to what is left of it without the blanks at its ends. -/
theorem trim_eq_iff {text core : List Char} : trim text = core ↔ Stripped text core := by
  constructor
  · rintro rfl
    exact stripped_trim text
  · exact Stripped.trim_eq

/-- A text without blanks is left as it is. -/
theorem stripped_self {text : List Char} (bare : ∀ c ∈ text, isBlank c = false) :
    Stripped text text where
  around := ⟨[], [], by simp, by simp, by simp⟩
  first c kept := bare c (List.mem_of_head? kept)
  last c kept := bare c (List.mem_of_getLast? kept)

/-! ## Capitals -/

/-- Texts that are equal up to the case of letters of ASCII. -/
def SameLetters (a b : List Char) : Prop :=
  a.map Char.toUpper = b.map Char.toUpper

instance (a b : List Char) : Decidable (SameLetters a b) :=
  inferInstanceAs (Decidable (_ = _))

/-- The characters beyond ASCII that become letters of ASCII in upper case, and these letters. -/
def lookalikes : List (Char × List Char) :=
  [('\u00df', ['S', 'S']), ('\u0131', ['I']), ('\u017f', ['S']), ('\ufb00', ['F', 'F']),
   ('\ufb01', ['F', 'I']), ('\ufb02', ['F', 'L']), ('\ufb03', ['F', 'F', 'I']),
   ('\ufb04', ['F', 'F', 'L']), ('\ufb05', ['S', 'T']), ('\ufb06', ['S', 'T'])]

/-- A text that reads as a name in capitals: at each place there is a letter of the name, in either
case, or a character that looks like letters of it. -/
inductive ReadsAs : List Char → List Char → Prop
  | nil : ReadsAs [] []
  | letter {c : Char} {text name : List Char} (later : ReadsAs text name) :
      ReadsAs (c :: text) (c.toUpper :: name)
  | lookalike {c : Char} {letters text name : List Char} (like : (c, letters) ∈ lookalikes)
      (later : ReadsAs text name) : ReadsAs (c :: text) (letters ++ name)

theorem upperChar_of_lookalike : ∀ e ∈ lookalikes, upperChar e.1 = e.2 := by
  decide

theorem beyond_of_lookalike : ∀ e ∈ lookalikes, 128 ≤ e.1.toNat := by
  decide

theorem isBlank_of_lookalike : ∀ e ∈ lookalikes, isBlank e.1 = false := by
  decide

/-- In ASCII the upper case is a single letter. -/
theorem upperChar_of_ascii {c : Char} (ascii : c.toNat < 128) : upperChar c = [c.toUpper] := by
  have all : ∀ n < 128, upperChar (Char.ofNat n) = [(Char.ofNat n).toUpper] := by decide
  simpa using all c.toNat ascii

theorem toUpper_of_beyond {c : Char} (beyond : 128 ≤ c.toNat) : c.toUpper = c := by
  refine dif_neg ?_
  rintro ⟨-, small⟩
  have : c.toNat ≤ 122 := small
  omega

/-- A character in upper case is a single letter, unless it looks like what it becomes. -/
theorem upperChar_cases (c : Char) :
    (c, upperChar c) ∈ lookalikes ∨ upperChar c = [c.toUpper] := by
  rcases Nat.lt_or_ge c.toNat 128 with ascii | beyond
  · exact .inr (upperChar_of_ascii ascii)
  · have large : ¬ ('a' ≤ c ∧ c ≤ 'z') := by
      rintro ⟨-, small⟩
      have : c.toNat ≤ 122 := small
      omega
    rw [toUpper_of_beyond beyond, upperChar, if_neg large]
    split
    case h_11 => exact .inr rfl
    all_goals
      next code =>
        left
        rw [← Char.ofNat_toNat c, code]
        decide

/-- A text reads as what it becomes in upper case. -/
theorem readsAs_upper (text : List Char) : ReadsAs text (upper text) := by
  induction text with
  | nil => exact .nil
  | cons c text ih =>
    show ReadsAs (c :: text) (upperChar c ++ upper text)
    rcases upperChar_cases c with like | single
    · exact .lookalike like ih
    · rw [single]
      exact .letter ih

section
variable {text name : List Char} (ascii : ∀ c ∈ name, c.toNat < 128)
include ascii

theorem ReadsAs.upper_eq (reads : ReadsAs text name) : upper text = name := by
  induction reads with
  | nil => rfl
  | @letter c text name _ ih =>
    obtain ⟨first, others⟩ := List.forall_mem_cons.mp ascii
    have plain : c.toNat < 128 := by
      by_contra beyond
      rw [toUpper_of_beyond (Nat.le_of_not_lt beyond)] at first
      exact beyond first
    show upperChar c ++ upper text = _
    rw [upperChar_of_ascii plain, ih others]
    rfl
  | @lookalike c letters text name like _ ih =>
    show upperChar c ++ upper text = _
    rw [upperChar_of_lookalike _ like, ih fun d mem => ascii d (List.mem_append_right _ mem)]

/-- The upper case of a text is a name in ASCII just when the text reads as this name. -/
theorem upper_eq_iff : upper text = name ↔ ReadsAs text name := by
  constructor
  · rintro rfl
    exact readsAs_upper text
  · exact ReadsAs.upper_eq ascii

/-- A character beyond ASCII in such a text looks like letters of the name. -/
theorem ReadsAs.infix_of_mem (reads : ReadsAs text name) {c : Char} (mem : c ∈ text)
    (beyond : 128 ≤ c.toNat) : ∃ letters, (c, letters) ∈ lookalikes ∧ letters <:+: name := by
  induction reads with
  | nil => cases mem
  | @letter d text name _ ih =>
    obtain ⟨first, others⟩ := List.forall_mem_cons.mp ascii
    rcases List.mem_cons.mp mem with rfl | mem
    · rw [toUpper_of_beyond beyond] at first
      omega
    · obtain ⟨letters, like, inside⟩ := ih others mem
      exact ⟨letters, like, inside.trans (List.suffix_cons _ _).isInfix⟩
  | @lookalike d letters text name like _ ih =>
    rcases List.mem_cons.mp mem with rfl | mem
    · exact ⟨letters, like, (List.prefix_append letters name).isInfix⟩
    · obtain ⟨letters', like, inside⟩ := ih (fun x mem => ascii x (List.mem_append_right _ mem)) mem
      exact ⟨letters', like, inside.trans (List.suffix_append _ _).isInfix⟩

end

theorem ReadsAs.append {text text' name name' : List Char} (reads : ReadsAs text name)
    (reads' : ReadsAs text' name') : ReadsAs (text ++ text') (name ++ name') := by
  induction reads with
  | nil => exact reads'
  | letter _ ih => exact .letter ih
  | lookalike like _ ih =>
    rw [List.append_assoc]
    exact .lookalike like ih

theorem readsAs_map_toUpper (text : List Char) : ReadsAs text (text.map Char.toUpper) := by
  induction text with
  | nil => exact .nil
  | cons c text ih => exact .letter ih

/-- Capitals read as themselves. -/
theorem readsAs_self {text : List Char} (capitals : ∀ c ∈ text, c.toUpper = c) :
    ReadsAs text text := by
  have reads := readsAs_map_toUpper text
  rwa [List.map_congr_left capitals, List.map_id'] at reads

/-- A text in ASCII reads as a name just when its letters are those of the name. -/
theorem ReadsAs.map_toUpper {text name : List Char} (reads : ReadsAs text name)
    (ascii : ∀ c ∈ text, c.toNat < 128) : text.map Char.toUpper = name := by
  induction reads with
  | nil => rfl
  | letter _ ih => rw [List.map_cons, ih (List.forall_mem_cons.mp ascii).2]
  | @lookalike c letters text name like _ _ =>
    have beyond : 128 ≤ c.toNat := beyond_of_lookalike _ like
    have := (List.forall_mem_cons.mp ascii).1
    omega

end Assay.Text
