/-!
# Bytes as text

Reading UTF-8. Bytes that begin no character, and unfinished characters, are faults; a fault takes
the longest run of bytes that could have begun a character, and at least one byte.
-/

namespace Assay.Text.Utf8

/-- The number of bytes that follow the first byte of a character, the range of the second byte,
and the bits that the first byte contributes; none if it begins no character of several bytes. -/
def lead (b : Nat) : Option (Nat × Nat × Nat × Nat) :=
  if 0xC2 ≤ b ∧ b ≤ 0xDF then some (1, 0x80, 0xBF, b - 0xC0)
  else if b = 0xE0 then some (2, 0xA0, 0xBF, 0)
  else if b = 0xED then some (2, 0x80, 0x9F, 0xD)
  else if 0xE1 ≤ b ∧ b ≤ 0xEF then some (2, 0x80, 0xBF, b - 0xE0)
  else if b = 0xF0 then some (3, 0x90, 0xBF, 0)
  else if b = 0xF4 then some (3, 0x80, 0x8F, 4)
  else if 0xF1 ≤ b ∧ b ≤ 0xF3 then some (3, 0x80, 0xBF, b - 0xF0)
  else none

/-- Reads the bytes after the first one: `wanted` more, the next of them in the given range. Gives
the code point if they are all there, and how many bytes were read. -/
def follow : Nat → Nat → Nat → Nat → List UInt8 → Option Nat × Nat
  | 0, _, _, value, _ => (some value, 0)
  | _ + 1, _, _, _, [] => (none, 0)
  | wanted + 1, low, high, value, b :: rest =>
    if low ≤ b.toNat ∧ b.toNat ≤ high then
      let (found, count) := follow wanted 0x80 0xBF (64 * value + (b.toNat - 0x80)) rest
      (found, count + 1)
    else (none, 0)

/-- The character that a byte and those after it begin with, and how many of those it takes. -/
def unit (b : UInt8) (rest : List UInt8) : Option Char × Nat :=
  if b.toNat < 0x80 then (some (Char.ofNat b.toNat), 0)
  else
    match lead b.toNat with
    | none => (none, 0)
    | some (wanted, low, high, value) =>
      let (found, count) := follow wanted low high value rest
      (found.map Char.ofNat, count)

/-- The characters of some bytes; faults are none. -/
def units : List UInt8 → List (Option Char)
  | [] => []
  | b :: rest =>
    let (c, count) := unit b rest
    c :: units (rest.drop count)
termination_by bytes => bytes.length
decreasing_by simp only [List.length_drop, List.length_cons]; omega

/-- The text of some bytes, if they are without faults. -/
def decode (bytes : List UInt8) : Option String :=
  ((units bytes).mapM id).map String.ofList

/-- The character that stands for a fault. -/
def replacement : Char := Char.ofNat 0xFFFD

/-- The text of some bytes, with a replacement character for each fault. -/
def decodeLossy (bytes : List UInt8) : String :=
  String.ofList ((units bytes).map (·.getD replacement))

end Assay.Text.Utf8
