import Assay.Json.Printer
import Assay.Json.Record
import Assay.Proofs.Decimal.Digits

/-!
# The words of a compact text are read back

A string that was written with its escapes, a truth value and an integer of 64 bits are read back,
with whatever follows them in the text. A string ends at its quote and a literal name after its last
letter; a number goes on as long as it can, so what follows it must not continue it.
-/

namespace Assay.Json

/-- What no blank has makes a character solid. -/
theorem solid_of_all {p : Char → Bool}
    (none : ([' ', '\n', '\t', '\r'].all fun c => !p c) = true) {c : Char} (h : p c = true) :
    isBlank c = false := by
  cases blank : isBlank c with
  | false => rfl
  | true =>
    have listed : c ∈ [' ', '\n', '\t', '\r'] := by
      simpa [isBlank, or_assoc] using blank
    have without := List.all_eq_true.mp none c listed
    rw [h] at without
    cases without

theorem skipBlanks_cons {c : Char} (h : isBlank c = false) (cs : List Char) :
    skipBlanks (c :: cs) = c :: cs := by
  rw [skipBlanks, List.dropWhile_cons_of_neg (by simp [h])]

/-! ## Strings -/

theorem hexValue_hexDigit : ∀ d, d < 16 → hexValue (hexDigit d) = some d := by
  decide

theorem utf8Size_hexDigit : ∀ d, d < 16 → (hexDigit d).utf8Size = 1 := by
  decide

/-- Two written hexadecimal digits after two zeros are the number they were written for. -/
theorem hexFour_hexDigit {n : Nat} (h : n < 256) (rest : List Char) :
    hexFour ('0' :: '0' :: hexDigit (n / 16) :: hexDigit (n % 16) :: rest) = .ok (n, rest) := by
  have high : n / 16 < 16 := by omega
  have low : n % 16 < 16 := by omega
  have size : byteSize ['0', '0', hexDigit (n / 16), hexDigit (n % 16)] = 4 := by
    simp only [byteSize, List.foldl_cons, List.foldl_nil, utf8Size_hexDigit _ high,
      utf8Size_hexDigit _ low]
    rfl
  have zero : hexValue '0' = some 0 := by decide
  have value : 4096 * 0 + 256 * 0 + 16 * (n / 16) + n % 16 = n := by omega
  rw [hexFour, if_neg]
  · simp only [zero, hexValue_hexDigit _ high, hexValue_hexDigit _ low, value]
  · show ¬ byteSize ['0', '0', hexDigit (n / 16), hexDigit (n % 16)] < 4
    omega

/-- A control character that was written by its number is read back. -/
theorem unicodeEscape_hexDigit {c : Char} (h : c.toNat < 32) (rest : List Char) :
    unicodeEscape ('0' :: '0' :: hexDigit (c.toNat / 16) :: hexDigit (c.toNat % 16) :: rest) =
      .ok (c, rest) := by
  rw [unicodeEscape, hexFour_hexDigit (by omega)]
  show (if 0xDC00 ≤ c.toNat ∧ c.toNat ≤ 0xDFFF then _ else
    if c.toNat < 0xD800 ∨ 0xDBFF < c.toNat then _ else _) = _
  rw [if_neg (by omega), if_pos (by omega), Char.ofNat_toNat]

/-- A character is written either as an escape that reads back to it, or as itself. -/
theorem escapeChar_cases (c : Char) :
    (∃ tail, escapeChar c = '\\' :: tail ∧ ∀ rest, escape (tail ++ rest) = .ok (c, rest)) ∨
      (escapeChar c = [c] ∧ c ≠ '"' ∧ c ≠ '\\' ∧ ¬ c.toNat < 32) := by
  rw [escapeChar]
  by_cases quote : c = '"'
  · subst quote
    exact .inl ⟨_, rfl, fun _ => rfl⟩
  rw [if_neg quote]
  by_cases backslash : c = '\\'
  · subst backslash
    exact .inl ⟨_, rfl, fun _ => rfl⟩
  rw [if_neg backslash]
  by_cases control : c.toNat < 32
  · rw [if_pos control]
    refine .inl ?_
    by_cases lineFeed : c = '\n'
    · subst lineFeed
      exact ⟨_, rfl, fun _ => rfl⟩
    by_cases carriageReturn : c = '\r'
    · subst carriageReturn
      exact ⟨_, rfl, fun _ => rfl⟩
    by_cases tab : c = '\t'
    · subst tab
      exact ⟨_, rfl, fun _ => rfl⟩
    rw [if_neg lineFeed, if_neg carriageReturn, if_neg tab]
    by_cases backspace : c.toNat = 8
    · rw [if_pos backspace]
      have named : c = '\x08' := by rw [← Char.ofNat_toNat c, backspace]
      exact ⟨_, rfl, fun _ => named ▸ rfl⟩
    by_cases formFeed : c.toNat = 12
    · rw [if_neg backspace, if_pos formFeed]
      have named : c = '\x0c' := by rw [← Char.ofNat_toNat c, formFeed]
      exact ⟨_, rfl, fun _ => named ▸ rfl⟩
    rw [if_neg backspace, if_neg formFeed]
    exact ⟨_, rfl, unicodeEscape_hexDigit control⟩
  · rw [if_neg control]
    exact .inr ⟨rfl, quote, backslash, control⟩

theorem stringChars_cons {c : Char} (quote : c ≠ '"') (backslash : c ≠ '\\')
    (control : ¬ c.toNat < 32) (b : Char) (bound cs : List Char) :
    stringChars (b :: bound) (c :: cs) = (do
      let (text, rest) ← stringChars bound cs
      .ok (c :: text, rest)) := by
  rw [stringChars, if_neg control]
  · exact quote
  · exact backslash

/-- Every character of a string is written as one or more. -/
theorem length_le_escaped (s : List Char) : s.length ≤ (s.flatMap escapeChar).length := by
  induction s with
  | nil => exact Nat.le_refl _
  | cons c s ih =>
    have one : 1 ≤ (escapeChar c).length := by
      obtain ⟨tail, written, -⟩ | ⟨written, -⟩ := escapeChar_cases c
      · simp [written]
      · simp [written]
    simp only [List.flatMap_cons, List.length_append, List.length_cons]
    omega

/-- The characters of a written string are read back up to its closing quote. -/
theorem stringChars_escaped (s rest bound : List Char) (room : s.length < bound.length) :
    stringChars bound (s.flatMap escapeChar ++ '"' :: rest) = .ok (s, rest) := by
  -- one round reads what was written of one character, so the bound outlasts the string
  induction s generalizing bound with
  | nil =>
    obtain ⟨b, bound, rfl⟩ := List.exists_cons_of_length_pos room
    rfl
  | cons c s ih =>
    obtain ⟨b, bound, rfl⟩ := List.exists_cons_of_length_pos (Nat.zero_lt_of_lt room)
    have again := ih bound (by simpa using room)
    rw [List.flatMap_cons, List.append_assoc]
    obtain ⟨tail, written, reads⟩ | ⟨written, quote, backslash, control⟩ := escapeChar_cases c
    · rw [written, List.cons_append, stringChars, reads]
      show (do
        let (text, rest) ← stringChars bound (s.flatMap escapeChar ++ '"' :: rest)
        .ok (c :: text, rest)) = _
      rw [again]
      rfl
    · rw [written, List.singleton_append, stringChars_cons quote backslash control, again]
      rfl

/-- A written string is read back after its opening quote. -/
theorem stringBody_escaped (s : String) (rest : List Char) :
    stringBody (s.toList.flatMap escapeChar ++ '"' :: rest) = .ok (s, rest) := by
  have room : s.toList.length <
      ('"' :: (s.toList.flatMap escapeChar ++ '"' :: rest)).length := by
    have le := length_le_escaped s.toList
    simp only [List.length_cons, List.length_append]
    omega
  rw [stringBody, stringChars_escaped _ _ _ room]
  show Except.ok (String.ofList s.toList, rest) = _
  rw [String.ofList_toList]

theorem quoteChars_append (s rest : List Char) :
    quoteChars s ++ rest = '"' :: (s.flatMap escapeChar ++ '"' :: rest) := by
  simp [quoteChars]

/-- A written string is read back. -/
theorem readString_quoteChars (s : String) (rest : List Char) :
    readString (quoteChars s.toList ++ rest) = .ok (s, rest) := by
  rw [readString, quoteChars_append, skipBlanks_cons (by decide)]
  exact stringBody_escaped s rest

/-- The characters that escapes are written with. -/
def escapeLetters : List Char :=
  ['\\', '"', 'n', 'r', 't', 'b', 'f', 'u', '0', '1', '2', '3', '4', '5', '6', '7', '8', '9',
    'a', 'b', 'c', 'd', 'e', 'f']

/-- A character is written with the letters of escapes, or as itself if it is no control
character. -/
theorem mem_escapeChar {c x : Char} (mem : x ∈ escapeChar c) :
    x ∈ escapeLetters ∨ (x = c ∧ ¬ c.toNat < 32) := by
  have hex : ∀ d, d < 16 → hexDigit d ∈ escapeLetters := by decide
  have letters {cs : List Char} (inside : cs.all (· ∈ escapeLetters) = true) (mem : x ∈ cs) :
      x ∈ escapeLetters ∨ (x = c ∧ ¬ c.toNat < 32) :=
    .inl (of_decide_eq_true (List.all_eq_true.mp inside x mem))
  unfold escapeChar at mem
  split at mem
  · exact letters rfl mem
  split at mem
  · exact letters rfl mem
  split at mem
  · next control =>
    split at mem
    · exact letters rfl mem
    split at mem
    · exact letters rfl mem
    split at mem
    · exact letters rfl mem
    split at mem
    · exact letters rfl mem
    split at mem
    · exact letters rfl mem
    have high := hex (c.toNat / 16) (by omega)
    have low := hex (c.toNat % 16) (by omega)
    rcases List.mem_append.mp (show x ∈ ['\\', 'u', '0', '0'] ++ _ from mem) with mem | mem
    · exact letters rfl mem
    · simp only [List.mem_cons, List.not_mem_nil, or_false] at mem
      rcases mem with rfl | rfl
      · exact .inl high
      · exact .inl low
  · next printable => exact .inr ⟨List.mem_singleton.mp mem, printable⟩

theorem printable_of_all {cs : List Char}
    (h : (cs.all fun x => Nat.ble 32 x.toNat) = true) : ∀ x ∈ cs, 32 ≤ x.toNat := by
  intro x mem
  exact Nat.le_of_ble_eq_true (List.all_eq_true.mp h x mem)

/-- What is written of a character has no control characters in it. -/
theorem printable_escapeChar (c : Char) : ∀ x ∈ escapeChar c, 32 ≤ x.toNat := by
  have letters : ∀ x ∈ escapeLetters, 32 ≤ x.toNat := printable_of_all rfl
  intro x mem
  rcases mem_escapeChar mem with mem | ⟨rfl, printable⟩
  · exact letters x mem
  · omega

theorem printable_quoteChars (s : List Char) : ∀ x ∈ quoteChars s, 32 ≤ x.toNat := by
  intro x mem
  simp only [quoteChars, List.mem_cons, List.mem_append, List.mem_flatMap, List.not_mem_nil,
    or_false] at mem
  rcases mem with rfl | ⟨c, -, mem⟩ | rfl
  · decide
  · exact printable_escapeChar c x mem
  · decide

/-- A written truth value is read back. -/
theorem readBool_compactChars (b : Bool) (rest : List Char) :
    readBool (compactChars (.bool b) ++ rest) = .ok (b, rest) := by
  cases b with
  | true => rfl
  | false => rfl

/-! ## Numbers -/

/-- What may stand after an integer in a text without making it another number. -/
def EndsNumber (cs : List Char) : Prop :=
  Decimal.EndsDigits cs ∧ ∀ c after, cs = c :: after → c ≠ '.' ∧ c ≠ 'e' ∧ c ≠ 'E'

theorem startsWithDigit_of_ends {cs : List Char} (h : Decimal.EndsDigits cs) :
    startsWithDigit cs = false := by
  cases cs with
  | nil => rfl
  | cons c after => exact h c after rfl

/-- Digits are taken as long as the significand stays within its limit. -/
theorem takeDigits_append {ds : List Char} (digits : ∀ c ∈ ds, Decimal.isDigit c = true)
    {rest : List Char} (ends : Decimal.EndsDigits rest) (n : Nat)
    (fits : Decimal.extend n ds < significandLimit) :
    takeDigits n (ds ++ rest) = (Decimal.extend n ds, ds.length, rest) := by
  induction ds generalizing n with
  | nil =>
    cases rest with
    | nil => rfl
    | cons c after =>
      rw [List.nil_append, takeDigits, if_neg (by simp [ends c after rfl])]
      rfl
  | cons d ds ih =>
    rw [Decimal.extend_cons] at fits ⊢
    have stays : 10 * n + Decimal.digitValue d < significandLimit :=
      Nat.lt_of_le_of_lt (Decimal.le_extend _ _) fits
    rw [List.cons_append, takeDigits, if_pos ⟨digits d List.mem_cons_self, stays⟩,
      ih (fun c mem => digits c (List.mem_cons_of_mem d mem)) _ fits]
    rfl

theorem afterInteger_of_ends (n : Nat) {rest : List Char} (ends : EndsNumber rest) :
    afterInteger false n rest = .ok (.int n, rest) := by
  rw [afterInteger.eq_def]
  split
  · exact absurd rfl (ends.2 _ _ rfl).1
  · exact absurd rfl (ends.2 _ _ rfl).2.1
  · exact absurd rfl (ends.2 _ _ rfl).2.2
  · rw [if_pos rfl]

/-- A negative number is an integer down to `-2 ^ 63`. -/
theorem afterInteger_negative {n : Nat} (positive : 0 < n) (fits : n ≤ 2 ^ 63) {rest : List Char}
    (ends : EndsNumber rest) : afterInteger true n rest = .ok (.int (-(n : Int)), rest) := by
  rw [afterInteger.eq_def]
  split
  · exact absurd rfl (ends.2 _ _ rfl).1
  · exact absurd rfl (ends.2 _ _ rfl).2.1
  · exact absurd rfl (ends.2 _ _ rfl).2.2
  · have size : UInt64.size = 2 ^ 64 := rfl
    have whole : ¬ (n = 0 ∨ UInt64.size < 2 * n) := by omega
    rw [if_neg (by decide), if_neg whole]

/-- The digits of a number of 64 bits are read as its significand. -/
theorem number_eq_afterInteger (negative : Bool) {n : Nat} (fits : n < significandLimit)
    {rest : List Char} (ends : Decimal.EndsDigits rest) :
    number negative (Decimal.digits n ++ rest) = afterInteger negative n rest := by
  -- zero is read apart, as the only number that begins with the digit zero
  rcases Nat.eq_zero_or_pos n with zero | positive
  · subst zero
    rw [Decimal.digits_of_lt (by decide)]
    show (if startsWithDigit rest then _ else afterInteger negative 0 rest) = _
    rw [if_neg (by simp [startsWithDigit_of_ends ends])]
  · obtain ⟨d, ds, written, nonzero⟩ := Decimal.digits_head positive
    have digits := Decimal.isDigit_of_mem_digits n
    rw [written] at digits
    have value : Decimal.extend (Decimal.digitValue d) ds = n := by
      rw [← Decimal.ofDigits_cons, ← written, Decimal.ofDigits_digits]
    have taken := takeDigits_append (fun c mem => digits c (List.mem_cons_of_mem d mem)) ends
      (Decimal.digitValue d) (value ▸ fits)
    rw [written, List.cons_append, number, if_pos (digits d List.mem_cons_self), taken, value]
    · dsimp only
      rw [if_neg (by simp [startsWithDigit_of_ends ends])]
    · exact nonzero

/-- The written digits of a number of 64 bits are read back. -/
theorem number_digits {n : Nat} (fits : n < significandLimit) {rest : List Char}
    (ends : EndsNumber rest) : number false (Decimal.digits n ++ rest) = .ok (.int n, rest) := by
  rw [number_eq_afterInteger false fits ends.1]
  exact afterInteger_of_ends n ends

/-- The written digits of a negative number of 64 bits are read back after its sign. -/
theorem number_digits_negative {n : Nat} (positive : 0 < n) (fits : n ≤ 2 ^ 63)
    {rest : List Char} (ends : EndsNumber rest) :
    number true (Decimal.digits n ++ rest) = .ok (.int (-(n : Int)), rest) := by
  have limit : significandLimit = 2 ^ 64 := rfl
  rw [number_eq_afterInteger true (by omega) ends.1]
  exact afterInteger_negative positive fits ends

/-- A digit is no blank and no sign, and leads no literal name. -/
theorem of_isDigit {c : Char} (h : Decimal.isDigit c = true) :
    isBlank c = false ∧ c ≠ '-' ∧ c ≠ 'n' := by
  refine ⟨solid_of_all rfl h, ?_, ?_⟩
  · rintro rfl
    exact absurd h (by decide)
  · rintro rfl
    exact absurd h (by decide)

/-- A written number of 64 bits is read back. -/
theorem readNat_digits {n : Nat} (fits : n < significandLimit) {rest : List Char}
    (ends : EndsNumber rest) : readNat (Decimal.digits n ++ rest) = .ok (n, rest) := by
  have reads := number_digits fits ends
  obtain ⟨d, ds, written⟩ := List.exists_cons_of_ne_nil (Decimal.digits_ne_nil n)
  have digit : Decimal.isDigit d = true :=
    Decimal.isDigit_of_mem_digits n d (written ▸ List.mem_cons_self)
  rw [written, List.cons_append] at reads ⊢
  rw [readNat, skipBlanks_cons (of_isDigit digit).1]
  split
  · next empty => cases empty
  · next sign => exact absurd (List.cons.inj sign).1 (of_isDigit digit).2.1
  · next other =>
    obtain ⟨rfl, rfl⟩ := List.cons.inj other
    rw [if_pos digit, reads]
    rfl

theorem printable_digits (n : Nat) : ∀ x ∈ Decimal.digits n, 32 ≤ x.toNat := by
  intro x mem
  have digit : '0' ≤ x ∧ x ≤ '9' := of_decide_eq_true (Decimal.isDigit_of_mem_digits n x mem)
  have lower : 48 ≤ x.toNat := digit.1
  omega

/-! ## What may be null -/

/-- A value that is not written as null is read where null may stand too. -/
theorem readOption_of_read {item : List Char → Except Fault (α × List Char)} {c : Char}
    {cs rest : List Char} {value : α} (blank : isBlank c = false) (null : c ≠ 'n')
    (reads : item (c :: cs) = .ok (value, rest)) :
    readOption item (c :: cs) = .ok (some value, rest) := by
  rw [readOption, skipBlanks_cons blank]
  split
  · next same => exact absurd (List.cons.inj same).1 null
  · rw [reads]
    rfl

end Assay.Json
