import Assay.Text.Utf8

/-!
# Text whose encoding is told by a mark

Bytes that come from elsewhere are UTF-8 unless they begin with a byte order mark, which tells one
of three encodings and is no part of the text. What is no character becomes a replacement.
-/

namespace Assay.Text

/-- The order of the two bytes of a unit. -/
inductive ByteOrder where
  | bigEndian
  | littleEndian
  deriving DecidableEq, Repr

/-- The unit of sixteen bits that two bytes make. -/
def ByteOrder.unit (order : ByteOrder) (a b : UInt8) : Nat :=
  match order with
  | .bigEndian => 256 * a.toNat + b.toNat
  | .littleEndian => 256 * b.toNat + a.toNat

/-- The units that some bytes make, and whether a byte is left over. -/
def ByteOrder.units (order : ByteOrder) : List UInt8 → List Nat × Bool
  | a :: b :: rest =>
    let (units, odd) := order.units rest
    (order.unit a b :: units, odd)
  | rest => ([], !rest.isEmpty)

/-- Whether a unit is the first half of a character above `U+FFFF`. -/
def isHighHalf (unit : Nat) : Bool :=
  decide (0xD800 ≤ unit ∧ unit < 0xDC00)

/-- Whether a unit is the second half of a character above `U+FFFF`. -/
def isLowHalf (unit : Nat) : Bool :=
  decide (0xDC00 ≤ unit ∧ unit < 0xE000)

/-- The characters that units stand for. A half without the other one is a fault; so is a byte left
over at the end, together with a half before it. -/
def charsOfUnits (odd : Bool) : List Nat → List Char
  | [] => if odd then [Utf8.replacement] else []
  | unit :: rest =>
    if isHighHalf unit then
      match rest with
      | [] => [Utf8.replacement]
      | low :: after =>
        if isLowHalf low then
          Char.ofNat (0x10000 + 1024 * (unit - 0xD800) + (low - 0xDC00)) :: charsOfUnits odd after
        else Utf8.replacement :: charsOfUnits odd (low :: after)
    else if isLowHalf unit then Utf8.replacement :: charsOfUnits odd rest
    else Char.ofNat unit :: charsOfUnits odd rest

/-- The text of bytes in UTF-16. -/
def decodeUtf16 (order : ByteOrder) (bytes : List UInt8) : String :=
  let (units, odd) := order.units bytes
  String.ofList (charsOfUnits odd units)

/-- The text of some bytes that may begin with a byte order mark. -/
def decodeMarked (bytes : List UInt8) : String :=
  match bytes with
  | 0xEF :: 0xBB :: 0xBF :: rest => Utf8.decodeLossy rest
  | 0xFE :: 0xFF :: rest => decodeUtf16 .bigEndian rest
  | 0xFF :: 0xFE :: rest => decodeUtf16 .littleEndian rest
  | _ => Utf8.decodeLossy bytes

end Assay.Text
