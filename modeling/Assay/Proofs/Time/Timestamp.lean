import Assay.Proofs.Decimal.Digits
import Assay.Proofs.Time.Calendar

/-!
# Points in time are read back

A point in time whose parts stand in their bounds is read back from its text, and the points that a
clock tells are such, as long as their years are known ones.
-/

namespace Assay

/-- A date of the calendar and a time of day, with all parts in their bounds. -/
structure Timestamp.Known (t : Timestamp) : Prop where
  year : Date.inRange t.date.year = true
  month : 1 ≤ t.date.month ∧ t.date.month ≤ 12
  day : 1 ≤ t.date.day ∧ t.date.day ≤ Date.monthLength t.date.year t.date.month
  hour : t.hour ≤ 23
  minute : t.minute ≤ 59
  second : t.second ≤ 60
  nanosecond : t.nanosecond < 1000000000

namespace Timestamp

open Decimal

/-! ## Parts -/

theorem isBlank_of_isDigit {c : Char} (h : isDigit c = true) : Text.isBlank c = false := by
  have bounds : '0' ≤ c ∧ c ≤ '9' := of_decide_eq_true h
  have lower : 48 ≤ c.toNat := bounds.1
  have upper : c.toNat ≤ 57 := bounds.2
  simp only [Text.isBlank, Text.Ranges.has, Text.blankRanges, List.any_cons, List.any_nil,
    Bool.or_false, Bool.or_eq_false_iff, decide_eq_false_iff_not]
  omega

theorem takeWhile_digits {ds rest : List Char} (digits : ∀ c ∈ ds, isDigit c = true)
    (ends : EndsDigits rest) (k : Nat) : (ds ++ rest.take k).takeWhile isDigit = ds := by
  rw [List.takeWhile_append_of_pos digits]
  have none : (rest.take k).takeWhile isDigit = [] := by
    cases rest with
    | nil => simp
    | cons c after =>
      cases k with
      | zero => rfl
      | succ k =>
        rw [List.take_succ_cons, List.takeWhile_cons_of_neg]
        simp [ends c after rfl]
  rw [none, List.append_nil]

theorem skipBlanks_digits {ds : List Char} (digits : ∀ c ∈ ds, isDigit c = true)
    (nonempty : ds ≠ []) (rest : List Char) : skipBlanks (ds ++ rest) = ds ++ rest := by
  obtain ⟨d, ds, rfl⟩ := List.exists_cons_of_ne_nil nonempty
  rw [skipBlanks, List.cons_append, List.dropWhile_cons_of_neg]
  simp [isBlank_of_isDigit (digits d List.mem_cons_self)]

theorem readDigits_append {ds rest : List Char} {most : Nat}
    (digits : ∀ c ∈ ds, isDigit c = true) (nonempty : ds ≠ []) (fits : ds.length ≤ most)
    (ends : EndsDigits rest) : readDigits most (ds ++ rest) = .ok (ofDigits ds, rest) := by
  have taken : ((ds ++ rest).take most).takeWhile isDigit = ds := by
    rw [List.take_append, List.take_of_length_le fits]
    exact takeWhile_digits digits ends _
  have some : (ds ++ rest).isEmpty = false := by
    cases ds with
    | nil => exact absurd rfl nonempty
    | cons d ds => rfl
  simp only [readDigits, taken, some, List.isEmpty_eq_false_iff.mpr nonempty, Bool.false_eq_true,
    if_false, List.drop_left]

/-- A padded number within the bounds of its part is read back. -/
theorem readPart_padded {n least most : Nat} (lower : least ≤ n) (upper : n ≤ most)
    (small : most < 100) {rest : List Char} (ends : EndsDigits rest) :
    readPart least most (padded 2 n ++ rest) = .ok (n, rest) := by
  have length : (padded 2 n).length ≤ 2 := Nat.le_of_eq (length_padded (k := 1) (by omega))
  rw [readPart, skipBlanks_digits (isDigit_of_mem_padded 2 n) (padded_ne_nil 2 n),
    readDigits_append (isDigit_of_mem_padded 2 n) (padded_ne_nil 2 n) length ends, ofDigits_padded]
  show (if least ≤ n ∧ n ≤ most then _ else _) = _
  rw [if_pos ⟨lower, upper⟩]

theorem readYear_yearChars {year : Int} (known : Date.inRange year = true) {rest : List Char}
    (ends : EndsDigits rest) : readYear (yearChars year ++ rest) = .ok (year, rest) := by
  have bounds : -262143 ≤ year ∧ year ≤ 262142 := of_decide_eq_true known
  have fits : -0x80000000 ≤ year ∧ year < 0x80000000 := by omega
  have digits := isDigit_of_mem_padded 4
  rw [yearChars]
  by_cases plain : 0 ≤ year ∧ year ≤ 9999
  · rw [if_pos plain]
    have length : (padded 4 year.toNat).length ≤ 4 :=
      Nat.le_of_eq (length_padded (k := 3) (by omega))
    have value : ((year.toNat : Nat) : Int) = year := Int.toNat_of_nonneg plain.1
    have reads := readDigits_append (digits year.toNat) (padded_ne_nil 4 _) length ends
    rw [ofDigits_padded] at reads
    rw [readYear, skipBlanks_digits (digits year.toNat) (padded_ne_nil 4 _)]
    obtain ⟨d, ds, written⟩ := List.exists_cons_of_ne_nil (padded_ne_nil 4 year.toNat)
    have digit : isDigit d = true := digits _ d (written ▸ List.mem_cons_self)
    rw [written, List.cons_append] at reads ⊢
    split
    · next sign =>
      rw [(List.cons.inj sign).1] at digit
      exact absurd digit (by decide)
    · next sign =>
      rw [(List.cons.inj sign).1] at digit
      exact absurd digit (by decide)
    · simp only [reads, bind, Except.bind, value, if_pos fits]
  · rw [if_neg plain]
    have reads : readDigits (padded 4 year.natAbs ++ rest).length (padded 4 year.natAbs ++ rest) =
        .ok (year.natAbs, rest) := by
      rw [readDigits_append (digits year.natAbs) (padded_ne_nil 4 _) _ ends, ofDigits_padded]
      rw [List.length_append]
      exact Nat.le_add_right _ _
    by_cases negative : year < 0
    · have value : -((year.natAbs : Nat) : Int) = year := by omega
      have sign (cs : List Char) : skipBlanks ('-' :: cs) = '-' :: cs := rfl
      rw [if_pos negative, readYear, List.cons_append, sign]
      simp only [reads, bind, Except.bind, value, if_pos fits]
    · have value : ((year.natAbs : Nat) : Int) = year := by omega
      have sign (cs : List Char) : skipBlanks ('+' :: cs) = '+' :: cs := rfl
      rw [if_neg negative, readYear, List.cons_append, sign]
      simp only [reads, bind, Except.bind, value, if_pos fits]

/-- Padded digits after a point count as nanoseconds, by the number of digits they are. -/
theorem readFraction_padded {k n : Nat} (fits : n < 10 ^ (k + 1)) (short : k < 9)
    {rest : List Char} (ends : EndsDigits rest) :
    readFraction ('.' :: padded (k + 1) n ++ rest) = .ok (n * Nat.pow 10 (9 - (k + 1)), rest) := by
  have length := length_padded fits
  have reads := readDigits_append (isDigit_of_mem_padded (k + 1) n) (padded_ne_nil (k + 1) n)
    (length.trans_le (show k + 1 ≤ 9 by omega)) ends
  have count : (padded (k + 1) n ++ rest).length - rest.length = k + 1 := by
    rw [List.length_append, length, Nat.add_sub_cancel]
  have after : rest.dropWhile isDigit = rest := by
    cases rest with
    | nil => rfl
    | cons c after =>
      rw [List.dropWhile_cons_of_neg]
      simp [ends c after rfl]
  rw [ofDigits_padded] at reads
  simp only [readFraction, List.cons_append, reads, bind, Except.bind, count, after]

theorem readFraction_fractionChars {n : Nat} (fits : n < 1000000000) {rest : List Char}
    (ends : EndsDigits rest) (point : ∀ after, rest ≠ '.' :: after) :
    readFraction (fractionChars n ++ rest) = .ok (n, rest) := by
  rw [fractionChars]
  by_cases zero : n = 0
  · rw [if_pos zero, List.nil_append, readFraction.eq_def]
    split
    · next after => exact absurd rfl (point after)
    · rw [zero]
  rw [if_neg zero]
  by_cases thousandths : n % 1000000 = 0
  · rw [if_pos thousandths, readFraction_padded (k := 2) (by omega) (by decide) ends]
    have whole : n / 1000000 * Nat.pow 10 6 = n := by
      show n / 1000000 * 1000000 = n
      omega
    rw [whole]
  rw [if_neg thousandths]
  by_cases millionths : n % 1000 = 0
  · rw [if_pos millionths, readFraction_padded (k := 5) (by omega) (by decide) ends]
    have whole : n / 1000 * Nat.pow 10 3 = n := by
      show n / 1000 * 1000 = n
      omega
    rw [whole]
  · rw [if_neg millionths, readFraction_padded (k := 8) (by omega) (by decide) ends]
    show Except.ok (n * 1, rest) = _
    rw [Nat.mul_one]

/-- What follows the seconds of a text: it ends them, and if it starts with a point then with the
point of a fraction. -/
theorem endsDigits_fractionChars (n : Nat) {rest : List Char} (ends : EndsDigits rest) :
    EndsDigits (fractionChars n ++ rest) := by
  have point (cs : List Char) : EndsDigits ('.' :: cs) := endsDigits_cons (by decide) cs
  rw [fractionChars]
  split
  · exact ends
  · split
    · exact point _
    · split
      · exact point _
      · exact point _

/-! ## The whole text -/

theorem atOffset_zero {t : Timestamp} (h : t.Known) :
    atOffset t.date t.hour t.minute t.second t.nanosecond 0 = .ok t := by
  have valid : t.date.isValid = true := by
    simp only [Date.isValid, h.year, h.day, Bool.true_and, decide_eq_true_eq, and_self]
  have hours := h.hour
  have minutes := h.minute
  have whole : (60 * (t.hour : Int) + (t.minute : Int) - 0).toNat = 60 * t.hour + t.minute := by
    omega
  have hour : (60 * t.hour + t.minute) / 60 = t.hour := by omega
  have minute : (60 * t.hour + t.minute) % 60 = t.minute := by omega
  rw [atOffset, if_neg (by simp [valid]), if_neg (by omega), if_neg (by omega)]
  simp only [h.year, if_true, whole, hour, minute]

/-- **A point in time is read back from its text.** -/
theorem parse_chars {t : Timestamp} (h : t.Known) : parse t.chars = .ok t := by
  have dash (cs : List Char) : EndsDigits ('-' :: cs) := endsDigits_cons (by decide) cs
  have letter (cs : List Char) : EndsDigits ('T' :: cs) := endsDigits_cons (by decide) cs
  have mark (cs : List Char) : EndsDigits (':' :: cs) := endsDigits_cons (by decide) cs
  have last : EndsDigits ['Z'] := endsDigits_cons (by decide) []
  have dashed (cs : List Char) : readMark '-' ('-' :: cs) = .ok cs := rfl
  have marked (cs : List Char) : readMark ':' (':' :: cs) = .ok cs := rfl
  have utc : readOffset (skipBlanks ['Z']) = .ok (0, []) := rfl
  have days : t.date.day ≤ 31 := by
    refine h.day.2.trans ?_
    unfold Date.monthLength
    split
    · split <;> omega
    · split <;> omega
  have zone : ∀ after, ['Z'] ≠ '.' :: after := by
    intro after same
    exact absurd (List.cons.inj same).1 (by decide)
  -- each part is read up to the mark after it
  simp only [chars, List.append_assoc, List.cons_append]
  unfold parse
  simp only [bind, Except.bind, readYear_yearChars h.year (dash _), dashed, marked,
    readPart_padded h.month.1 h.month.2 (by decide) (dash _),
    readPart_padded h.day.1 days (by decide) (letter _),
    readPart_padded (Nat.zero_le _) h.hour (by decide) (mark _),
    readPart_padded (Nat.zero_le _) h.minute (by decide) (mark _),
    readPart_padded (Nat.zero_le _) h.second (by decide) (endsDigits_fractionChars _ last),
    readFraction_fractionChars h.nanosecond last zone, utc, true_or, if_true]
  have done : skipBlanks [] = [] := rfl
  rw [if_pos done]
  exact atOffset_zero h

/-! ## Times that a clock tells -/

/-- What a clock tells is a point in time with all parts in their bounds, if its year is known. -/
theorem known_ofEpochNanoseconds {n : Nat}
    (year : Date.inRange (ofEpochNanoseconds n).date.year = true) :
    (ofEpochNanoseconds n).Known where
  year := year
  month := (Date.ofEpochDay_inMonth _).1
  day := (Date.ofEpochDay_inMonth _).2
  hour := by
    show n / 1000000000 % 86400 / 3600 ≤ 23
    omega
  minute := by
    show n / 1000000000 % 86400 / 60 % 60 ≤ 59
    omega
  second := by
    show n / 1000000000 % 86400 % 60 ≤ 60
    omega
  nanosecond := by
    show n % 1000000000 < 1000000000
    omega

/-- Times in known years are less than `2 ^ 64` milliseconds after the beginning of 1970. -/
theorem lt_of_inRange {n : Nat}
    (year : Date.inRange (ofEpochNanoseconds n).date.year = true) :
    n / 1000000 < UInt64.size := by
  have bound : (ofEpochNanoseconds n).date.year ≤ 262142 := (of_decide_eq_true year).2
  have era := (Date.era_le_year (((n / 1000000000 : Nat) : Int) / 86400)).trans bound
  rw [Int.fdiv_eq_ediv_of_nonneg _ (by decide)] at era
  unfold UInt64.size
  omega

end Timestamp

end Assay
