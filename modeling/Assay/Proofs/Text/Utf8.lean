import Assay.Text.Encoding
import Mathlib.Data.List.Basic

/-!
# Text as bytes

Main statement: the bytes that are read as a text without a fault are those that the text is written
in, and no others. So a text is recovered from its bytes, also where faults would be replaced and
where a byte order mark is looked for.
-/

namespace Assay.Text

namespace Utf8

/-- The bytes of a text. -/
def encode (text : String) : List UInt8 :=
  text.toList.flatMap String.utf8EncodeChar

variable {b : UInt8} {rest bytes : List UInt8} {c : Char} {count : Nat}

/-! ## The bytes of one character -/

theorem encodeChar_one (small : c.toNat < 0x80) :
    String.utf8EncodeChar c = [UInt8.ofNat c.toNat] :=
  if_pos (Nat.le_of_lt_succ small)

theorem encodeChar_two (above : 0x80 ≤ c.toNat) (small : c.toNat < 0x800) :
    String.utf8EncodeChar c =
      [UInt8.ofNat (0xC0 + c.toNat / 64), UInt8.ofNat (0x80 + c.toNat % 64)] := by
  have first : c.toNat / 64 % 32 + 192 = 0xC0 + c.toNat / 64 := by omega
  have second : c.toNat % 64 + 128 = 0x80 + c.toNat % 64 := by omega
  rw [← first, ← second]
  exact (if_neg (by show ¬ c.toNat ≤ 127; omega)).trans (if_pos (Nat.le_of_lt_succ small))

theorem encodeChar_three (above : 0x800 ≤ c.toNat) (small : c.toNat < 0x10000) :
    String.utf8EncodeChar c =
      [UInt8.ofNat (0xE0 + c.toNat / 4096), UInt8.ofNat (0x80 + c.toNat / 64 % 64),
        UInt8.ofNat (0x80 + c.toNat % 64)] := by
  have first : c.toNat / 4096 % 16 + 224 = 0xE0 + c.toNat / 4096 := by omega
  have second : c.toNat / 64 % 64 + 128 = 0x80 + c.toNat / 64 % 64 := by omega
  have third : c.toNat % 64 + 128 = 0x80 + c.toNat % 64 := by omega
  rw [← first, ← second, ← third]
  exact (if_neg (by show ¬ c.toNat ≤ 127; omega)).trans
    ((if_neg (by show ¬ c.toNat ≤ 2047; omega)).trans (if_pos (Nat.le_of_lt_succ small)))

theorem code_lt (c : Char) : c.toNat < 0xD800 ∨ (0xDFFF < c.toNat ∧ c.toNat < 0x110000) :=
  c.valid

theorem encodeChar_four (above : 0x10000 ≤ c.toNat) :
    String.utf8EncodeChar c =
      [UInt8.ofNat (0xF0 + c.toNat / 262144), UInt8.ofNat (0x80 + c.toNat / 4096 % 64),
        UInt8.ofNat (0x80 + c.toNat / 64 % 64), UInt8.ofNat (0x80 + c.toNat % 64)] := by
  have small := code_lt c
  have first : c.toNat / 262144 % 8 + 240 = 0xF0 + c.toNat / 262144 := by omega
  have second : c.toNat / 4096 % 64 + 128 = 0x80 + c.toNat / 4096 % 64 := by omega
  have third : c.toNat / 64 % 64 + 128 = 0x80 + c.toNat / 64 % 64 := by omega
  have fourth : c.toNat % 64 + 128 = 0x80 + c.toNat % 64 := by omega
  rw [← first, ← second, ← third, ← fourth]
  exact (if_neg (by show ¬ c.toNat ≤ 127; omega)).trans
    ((if_neg (by show ¬ c.toNat ≤ 2047; omega)).trans
      (if_neg (by show ¬ c.toNat ≤ 65535; omega)))

theorem toNat_byte {n : Nat} (small : n < 256) : (UInt8.ofNat n).toNat = n := by
  rw [UInt8.toNat_ofNat']
  omega

theorem byte_eq {n : Nat} (same : n = b.toNat) : UInt8.ofNat n = b := by
  rw [same, UInt8.ofNat_toNat]

/-! ## Reading one character -/

theorem lead_two {n : Nat} (least : 0xC2 ≤ n) (most : n ≤ 0xDF) :
    lead n = some (1, 0x80, 0xBF, n - 0xC0) :=
  if_pos ⟨least, most⟩

/-- The second of three bytes excludes what could be written in two, and the halves of pairs. -/
theorem lead_three {n : Nat} (least : 0xE0 ≤ n) (most : n ≤ 0xEF) : lead n =
    some (2, if n = 0xE0 then 0xA0 else 0x80, if n = 0xED then 0x9F else 0xBF, n - 0xE0) := by
  by_cases first : n = 0xE0
  · rw [first]
    decide
  · by_cases halves : n = 0xED
    · rw [halves]
      decide
    · rw [if_neg first, if_neg halves, lead, if_neg (by omega), if_neg first, if_neg halves,
        if_pos ⟨by omega, most⟩]

/-- The second of four bytes excludes what could be written in three, and what is no character. -/
theorem lead_four {n : Nat} (least : 0xF0 ≤ n) (most : n ≤ 0xF4) : lead n =
    some (3, if n = 0xF0 then 0x90 else 0x80, if n = 0xF4 then 0x8F else 0xBF, n - 0xF0) := by
  by_cases first : n = 0xF0
  · rw [first]
    decide
  · by_cases last : n = 0xF4
    · rw [last]
      decide
    · rw [if_neg first, if_neg last, lead, if_neg (by omega), if_neg (by omega),
        if_neg (by omega), if_neg (by omega), if_neg first, if_neg last,
        if_pos ⟨by omega, by omega⟩]

theorem lead_cases {n : Nat} {led : Nat × Nat × Nat × Nat} (h : lead n = some led) :
    (0xC2 ≤ n ∧ n ≤ 0xDF) ∨ (0xE0 ≤ n ∧ n ≤ 0xEF) ∨ (0xF0 ≤ n ∧ n ≤ 0xF4) := by
  unfold lead at h
  split_ifs at h <;> omega

/-- Another byte is read if there is one in the range. -/
theorem follow_succ_eq_iff {wanted low high value found : Nat} :
    follow (wanted + 1) low high value bytes = (some found, count) ↔
      ∃ b rest more, bytes = b :: rest ∧ count = more + 1 ∧ low ≤ b.toNat ∧ b.toNat ≤ high ∧
        follow wanted 0x80 0xBF (64 * value + (b.toNat - 0x80)) rest = (some found, more) := by
  cases bytes with
  | nil => simp [follow]
  | cons b rest =>
    rw [follow]
    by_cases inside : low ≤ b.toNat ∧ b.toNat ≤ high
    · rw [if_pos inside]
      constructor
      · intro h
        obtain ⟨found_eq, rfl⟩ := Prod.mk.inj h
        exact ⟨b, rest, _, rfl, rfl, inside.1, inside.2, Prod.ext found_eq rfl⟩
      · rintro ⟨b, rest, more, same, rfl, -, -, others⟩
        obtain ⟨rfl, rfl⟩ := List.cons.inj same
        rw [others]
    · rw [if_neg inside]
      constructor
      · rintro ⟨⟩
      · rintro ⟨b, rest, more, same, -, low, high, -⟩
        obtain ⟨rfl, rfl⟩ := List.cons.inj same
        exact absurd ⟨low, high⟩ inside

theorem follow_zero_eq_iff {low high value found : Nat} :
    follow 0 low high value bytes = (some found, count) ↔ found = value ∧ count = 0 := by
  rw [follow, Prod.mk.injEq, Option.some_inj, eq_comm, @eq_comm _ count]

/-- A character of several bytes is read if its first byte says how, and the others follow. -/
theorem unit_of_lead {wanted low high value n : Nat} (above : 0x80 ≤ n) (small : n < 256)
    (led : lead n = some (wanted, low, high, value))
    (followed : follow wanted low high value rest = (some c.toNat, count)) :
    unit (UInt8.ofNat n) rest = (some c, count) := by
  rw [unit, toNat_byte small, if_neg (by omega), led]
  dsimp only
  rw [followed, Option.map_some, Char.ofNat_toNat]

/-- A byte in the range is read, and then those that are still wanted. -/
theorem follow_ofNat {wanted low high value n found : Nat} (small : n < 256) (least : low ≤ n)
    (most : n ≤ high)
    (others : follow wanted 0x80 0xBF (64 * value + (n - 0x80)) rest = (some found, count)) :
    follow (wanted + 1) low high value (UInt8.ofNat n :: rest) = (some found, count + 1) := by
  refine follow_succ_eq_iff.mpr ⟨_, rest, count, rfl, rfl, ?_⟩
  rw [toNat_byte small]
  exact ⟨least, most, others⟩

/-- A character is read back from its bytes, whatever follows them. -/
theorem unit_encodeChar (c : Char) (rest : List UInt8) :
    ∃ b tail, String.utf8EncodeChar c = b :: tail ∧
      unit b (tail ++ rest) = (some c, tail.length) := by
  have valid := code_lt c
  rcases Nat.lt_or_ge c.toNat 0x80 with one | above
  · refine ⟨_, _, encodeChar_one one, ?_⟩
    rw [unit, toNat_byte (by omega), if_pos one, Char.ofNat_toNat]
    rfl
  rcases Nat.lt_or_ge c.toNat 0x800 with two | above
  · refine ⟨_, _, encodeChar_two above two, ?_⟩
    refine unit_of_lead (by omega) (by omega) (lead_two (by omega) (by omega)) ?_
    refine follow_ofNat (by omega) (by omega) (by omega) ?_
    exact follow_zero_eq_iff.mpr ⟨by omega, rfl⟩
  rcases Nat.lt_or_ge c.toNat 0x10000 with three | above
  · refine ⟨_, _, encodeChar_three above three, ?_⟩
    refine unit_of_lead (by omega) (by omega) (lead_three (by omega) (by omega)) ?_
    refine follow_ofNat (by omega) (by split <;> omega) (by split <;> omega) ?_
    refine follow_ofNat (by omega) (by omega) (by omega) ?_
    exact follow_zero_eq_iff.mpr ⟨by omega, rfl⟩
  · refine ⟨_, _, encodeChar_four above, ?_⟩
    refine unit_of_lead (by omega) (by omega) (lead_four (by omega) (by omega)) ?_
    refine follow_ofNat (by omega) (by split <;> omega) (by split <;> omega) ?_
    refine follow_ofNat (by omega) (by omega) (by omega) ?_
    refine follow_ofNat (by omega) (by omega) (by omega) ?_
    exact follow_zero_eq_iff.mpr ⟨by omega, rfl⟩

theorem toNat_char {n : Nat} (valid : n < 0xD800 ∨ (0xDFFF < n ∧ n < 0x110000)) :
    (Char.ofNat n).toNat = n := by
  rw [Char.ofNat, dif_pos valid]
  rfl

theorem of_unit_lead {wanted low high value : Nat} (above : ¬ b.toNat < 0x80)
    (led : lead b.toNat = some (wanted, low, high, value)) (h : unit b rest = (some c, count)) :
    ∃ found, follow wanted low high value rest = (some found, count) ∧ c = Char.ofNat found := by
  rw [unit, if_neg above, led] at h
  obtain ⟨read, rfl⟩ := Prod.mk.inj h
  obtain ⟨found, some, rfl⟩ := Option.map_eq_some_iff.mp read
  exact ⟨found, Prod.ext some rfl, rfl⟩

/-- Some bytes are those of a character, the first one and as many as are counted of those after
it. -/
def Spells (c : Char) (b : UInt8) (rest : List UInt8) (count : Nat) : Prop :=
  ∃ tail after, rest = tail ++ after ∧ tail.length = count ∧
    String.utf8EncodeChar c = b :: tail

theorem spells_of_unit_two (least : 0xC2 ≤ b.toNat) (most : b.toNat ≤ 0xDF)
    (h : unit b rest = (some c, count)) : Spells c b rest count := by
  obtain ⟨found, followed, rfl⟩ := of_unit_lead (by omega) (lead_two least most) h
  obtain ⟨b₂, after, _, rfl, rfl, least₂, most₂, followed⟩ := follow_succ_eq_iff.mp followed
  obtain ⟨value, rfl⟩ := follow_zero_eq_iff.mp followed
  have code : (Char.ofNat found).toNat = found := toNat_char (by omega)
  refine ⟨[b₂], after, rfl, rfl, ?_⟩
  rw [encodeChar_two (by omega) (by omega), byte_eq (b := b) (by omega),
    byte_eq (b := b₂) (by omega)]

theorem spells_of_unit_three (least : 0xE0 ≤ b.toNat) (most : b.toNat ≤ 0xEF)
    (h : unit b rest = (some c, count)) : Spells c b rest count := by
  obtain ⟨found, followed, rfl⟩ := of_unit_lead (by omega) (lead_three least most) h
  obtain ⟨b₂, after, _, rfl, rfl, least₂, most₂, followed⟩ := follow_succ_eq_iff.mp followed
  obtain ⟨b₃, after, _, rfl, rfl, least₃, most₃, followed⟩ := follow_succ_eq_iff.mp followed
  obtain ⟨value, rfl⟩ := follow_zero_eq_iff.mp followed
  -- the second byte keeps the code from being too small for three bytes, and from the surrogates
  have second : 0x80 ≤ b₂.toNat ∧ b₂.toNat ≤ 0xBF ∧ (b.toNat = 0xE0 → 0xA0 ≤ b₂.toNat) ∧
      (b.toNat = 0xED → b₂.toNat ≤ 0x9F) := by
    split_ifs at least₂ most₂ <;> omega
  clear least₂ most₂
  have code : (Char.ofNat found).toNat = found := toNat_char (by omega)
  refine ⟨[b₂, b₃], after, rfl, rfl, ?_⟩
  rw [encodeChar_three (by omega) (by omega), byte_eq (b := b) (by omega),
    byte_eq (b := b₂) (by omega), byte_eq (b := b₃) (by omega)]

theorem spells_of_unit_four (least : 0xF0 ≤ b.toNat) (most : b.toNat ≤ 0xF4)
    (h : unit b rest = (some c, count)) : Spells c b rest count := by
  obtain ⟨found, followed, rfl⟩ := of_unit_lead (by omega) (lead_four least most) h
  obtain ⟨b₂, after, _, rfl, rfl, least₂, most₂, followed⟩ := follow_succ_eq_iff.mp followed
  obtain ⟨b₃, after, _, rfl, rfl, least₃, most₃, followed⟩ := follow_succ_eq_iff.mp followed
  obtain ⟨b₄, after, _, rfl, rfl, least₄, most₄, followed⟩ := follow_succ_eq_iff.mp followed
  obtain ⟨value, rfl⟩ := follow_zero_eq_iff.mp followed
  -- the second byte keeps the code between those of three bytes and the end
  have second : 0x80 ≤ b₂.toNat ∧ b₂.toNat ≤ 0xBF ∧ (b.toNat = 0xF0 → 0x90 ≤ b₂.toNat) ∧
      (b.toNat = 0xF4 → b₂.toNat ≤ 0x8F) := by
    split_ifs at least₂ most₂ <;> omega
  clear least₂ most₂
  have code : (Char.ofNat found).toNat = found := toNat_char (by omega)
  refine ⟨[b₂, b₃, b₄], after, rfl, rfl, ?_⟩
  rw [encodeChar_four (by omega), byte_eq (b := b) (by omega), byte_eq (b := b₂) (by omega),
    byte_eq (b := b₃) (by omega), byte_eq (b := b₄) (by omega)]

/-- What is read as a character without a fault are the bytes of this character. -/
theorem spells_of_unit (h : unit b rest = (some c, count)) : Spells c b rest count := by
  by_cases one : b.toNat < 0x80
  · rw [unit, if_pos one] at h
    obtain ⟨read, rfl⟩ := Prod.mk.inj h
    obtain rfl := Option.some.inj read
    have code : (Char.ofNat b.toNat).toNat = b.toNat := toNat_char (by omega)
    refine ⟨[], rest, rfl, rfl, ?_⟩
    rw [encodeChar_one (by omega), byte_eq code]
  · cases led : lead b.toNat with
    | none =>
      rw [unit, if_neg one, led] at h
      cases h
    | some q =>
      rcases lead_cases led with ⟨least, most⟩ | ⟨least, most⟩ | ⟨least, most⟩
      · exact spells_of_unit_two least most h
      · exact spells_of_unit_three least most h
      · exact spells_of_unit_four least most h

/-! ## Texts -/

theorem units_cons (b : UInt8) (rest : List UInt8) :
    units (b :: rest) = (unit b rest).1 :: units (rest.drop (unit b rest).2) := by
  rw [units]

/-- The characters of a text are read back from its bytes. -/
theorem units_encode (cs : List Char) :
    units (cs.flatMap String.utf8EncodeChar) = cs.map some := by
  induction cs with
  | nil => rw [List.flatMap_nil, units, List.map_nil]
  | cons c cs ih =>
    obtain ⟨b, tail, written, read⟩ := unit_encodeChar c (cs.flatMap String.utf8EncodeChar)
    rw [List.flatMap_cons, written, List.cons_append, units_cons, read, List.drop_left, ih,
      List.map_cons]

/-- Bytes that are read without a fault are those of the text. -/
theorem encode_of_units {cs : List Char} (read : units bytes = cs.map some) :
    bytes = cs.flatMap String.utf8EncodeChar := by
  induction cs generalizing bytes with
  | nil =>
    cases bytes with
    | nil => rfl
    | cons b rest =>
      rw [units] at read
      cases read
  | cons c cs ih =>
    cases bytes with
    | nil =>
      rw [units] at read
      cases read
    | cons b rest =>
      rw [units_cons] at read
      cases unit_eq : unit b rest with
      | mk found count =>
        rw [unit_eq] at read
        obtain ⟨rfl, others⟩ := List.cons.inj read
        obtain ⟨tail, after, rfl, rfl, written⟩ := spells_of_unit unit_eq
        rw [List.drop_left] at others
        rw [List.flatMap_cons, written, ← ih others, List.cons_append]

/-- All characters are there just when none of them is a fault. -/
theorem mapM_id_eq_some_iff {found : List (Option Char)} {cs : List Char} :
    found.mapM id = some cs ↔ found = cs.map some := by
  induction found generalizing cs with
  | nil => cases cs <;> simp
  | cons first found ih =>
    rw [List.mapM_cons]
    cases first with
    | none => cases cs <;> simp
    | some c =>
      have read : (found.mapM id).bind (fun cs => some (c :: cs)) = some cs ↔
          ∃ rest, found.mapM id = some rest ∧ some (c :: rest) = some cs := Option.bind_eq_some_iff
      refine read.trans ?_
      cases cs with
      | nil => simp
      | cons d cs => simp [ih, and_comm]

/-- **Bytes are read as a text just when they are its bytes.** -/
theorem decode_eq_some_iff {text : String} : decode bytes = some text ↔ bytes = encode text := by
  simp only [decode, Option.map_eq_some_iff, mapM_id_eq_some_iff]
  constructor
  · rintro ⟨cs, read, rfl⟩
    rw [encode, String.toList_ofList]
    exact encode_of_units read
  · rintro rfl
    exact ⟨text.toList, units_encode _, String.ofList_toList⟩

/-- Where faults are replaced, nothing is replaced in a text. -/
theorem decodeLossy_encode (text : String) : decodeLossy (encode text) = text := by
  have kept : ((·.getD replacement) ∘ some : Char → Char) = id := rfl
  rw [decodeLossy, encode, units_encode, List.map_map, kept, List.map_id, String.ofList_toList]

/-- A text whose bytes begin with some byte begins with the character that is read there. -/
theorem head?_of_encode {text : String} (bytes_eq : encode text = b :: rest) :
    ∃ c, (unit b rest).1 = some c ∧ text.toList.head? = some c := by
  have read := units_encode text.toList
  rw [← encode, bytes_eq, units_cons] at read
  cases chars : text.toList with
  | nil =>
    rw [chars] at read
    cases read
  | cons c cs =>
    rw [chars] at read
    exact ⟨c, (List.cons.inj read).1, rfl⟩

end Utf8

/-! ## Byte order marks -/

open Utf8

/-- The mark that may stand before a text. -/
def byteOrderMark : Char := '\uFEFF'

/-- A text that does not begin with the mark is recovered from its bytes. -/
theorem decodeMarked_encode {text : String} (unmarked : text.toList.head? ≠ some byteOrderMark) :
    decodeMarked (encode text) = text := by
  unfold decodeMarked
  split
  · next rest begins =>
    obtain ⟨c, read, first⟩ := head?_of_encode begins
    obtain rfl : byteOrderMark = c := Option.some.inj read
    exact absurd first unmarked
  · next rest begins =>
    -- no character begins with this byte, nor with the next one
    obtain ⟨c, read, -⟩ := head?_of_encode begins
    cases read
  · next rest begins =>
    obtain ⟨c, read, -⟩ := head?_of_encode begins
    cases read
  · exact decodeLossy_encode text

/-- The mark before a text is no part of it. -/
theorem decodeMarked_encode_marked (text : String) :
    decodeMarked (encode (String.ofList (byteOrderMark :: text.toList))) = text := by
  have bytes : encode (String.ofList (byteOrderMark :: text.toList)) =
      0xEF :: 0xBB :: 0xBF :: encode text := by
    rw [encode, String.toList_ofList, List.flatMap_cons]
    rfl
  rw [bytes]
  exact decodeLossy_encode text

end Assay.Text
