import Assay.Json.Fault
import Assay.Json.Value
import Assay.Decimal.Natural
import Assay.Decimal.Approximate

/-!
# The words of a JSON text

Blanks, literal names, strings and numbers. Each reader takes the characters that are left and
gives what it read with the characters after it, or a fault. A fault `here` lies before the next
byte, a fault `past` after it; at the end of the text the two are the same place.

A reader that repeats itself takes the characters it began with as a `bound` beside those that are
left, and drops one of them in every round. Every round reads at least one character, so the bound
lasts to the end.
-/

namespace Assay.Json

/-- A fault at the start of the characters that are left. -/
def here (reason : Reason) (rest : List Char) : Fault :=
  ⟨reason, byteSize rest⟩

/-- A fault after the first of the bytes that are left. -/
def past (reason : Reason) (rest : List Char) : Fault :=
  ⟨reason, byteSize rest - 1⟩

/-- The blanks between the words. -/
def isBlank (c : Char) : Bool :=
  c == ' ' || c == '\n' || c == '\t' || c == '\r'

/-- Skips blanks. -/
def skipBlanks (cs : List Char) : List Char :=
  cs.dropWhile isBlank

/-- Reads the characters of a literal name such as `null`. -/
def word : List Char → List Char → Except Fault (List Char)
  | [], cs => .ok cs
  | _ :: _, [] => .error (here .endInValue [])
  | w :: ws, c :: cs => if c = w then word ws cs else .error (past .wordExpected (c :: cs))

/-! ## Strings -/

/-- The value of a hexadecimal digit. -/
def hexValue (c : Char) : Option Nat :=
  if '0' ≤ c ∧ c ≤ '9' then some (c.toNat - 48)
  else if 'a' ≤ c ∧ c ≤ 'f' then some (c.toNat - 87)
  else if 'A' ≤ c ∧ c ≤ 'F' then some (c.toNat - 55)
  else none

/-- Four hexadecimal digits. -/
def hexFour (cs : List Char) : Except Fault (Nat × List Char) :=
  if byteSize (cs.take 4) < 4 then .error (here .endInString [])
  else
    match cs with
    | a :: b :: c :: d :: rest =>
      match hexValue a, hexValue b, hexValue c, hexValue d with
      | some a, some b, some c, some d => .ok (4096 * a + 256 * b + 16 * c + d, rest)
      | _, _, _, _ => .error ⟨.badEscape, byteSize cs - 4⟩
    | _ => .error ⟨.badEscape, byteSize cs - 4⟩

/-- What follows a backslash and a `u`. A character above `U+FFFF` takes two escapes. -/
def unicodeEscape (cs : List Char) : Except Fault (Char × List Char) := do
  let (unit, rest) ← hexFour cs
  if 0xDC00 ≤ unit ∧ unit ≤ 0xDFFF then
    .error (here .loneSurrogate rest)
  else if unit < 0xD800 ∨ 0xDBFF < unit then
    .ok (Char.ofNat unit, rest)
  else
    match rest with
    | [] => .error (here .endInString [])
    | '\\' :: [] => .error (here .endInString [])
    | '\\' :: 'u' :: low => do
      let (second, rest) ← hexFour low
      if second < 0xDC00 ∨ 0xDFFF < second then
        .error (here .loneSurrogate rest)
      else
        .ok (Char.ofNat (0x10000 + 1024 * (unit - 0xD800) + (second - 0xDC00)), rest)
    | '\\' :: other => .error (past .unfinishedSurrogate other)
    | other => .error (past .unfinishedSurrogate other)

/-- What follows a backslash. -/
def escape : List Char → Except Fault (Char × List Char)
  | [] => .error (here .endInString [])
  | '"' :: rest => .ok ('"', rest)
  | '\\' :: rest => .ok ('\\', rest)
  | '/' :: rest => .ok ('/', rest)
  | 'b' :: rest => .ok ('\x08', rest)
  | 'f' :: rest => .ok ('\x0c', rest)
  | 'n' :: rest => .ok ('\n', rest)
  | 'r' :: rest => .ok ('\r', rest)
  | 't' :: rest => .ok ('\t', rest)
  | 'u' :: rest => unicodeEscape rest
  | other => .error (past .badEscape other)

/-- The characters of a string up to its closing quote. -/
def stringChars : List Char → List Char → Except Fault (List Char × List Char)
  | [], _ => .error (here .endInString [])
  | _ :: bound, cs =>
    match cs with
    | [] => .error (here .endInString [])
    | '"' :: rest => .ok ([], rest)
    | '\\' :: rest => do
      let (c, rest) ← escape rest
      let (text, rest) ← stringChars bound rest
      .ok (c :: text, rest)
    | c :: rest =>
      if c.toNat < 32 then .error (past .controlCharacter (c :: rest))
      else do
        let (text, rest) ← stringChars bound rest
        .ok (c :: text, rest)

/-- A string after its opening quote. -/
def stringBody (cs : List Char) : Except Fault (String × List Char) := do
  let (text, rest) ← stringChars ('"' :: cs) cs
  .ok (String.ofList text, rest)

/-! ## Numbers -/

/-- The largest significand. -/
def significandLimit : Nat := UInt64.size

/-- Takes digits into a significand while it stays below the limit. Gives the significand, the
number of digits taken, and the characters after them. -/
def takeDigits (significand : Nat) : List Char → Nat × Nat × List Char
  | [] => (significand, 0, [])
  | c :: rest =>
    if Decimal.isDigit c ∧ 10 * significand + Decimal.digitValue c < significandLimit then
      let (value, count, after) := takeDigits (10 * significand + Decimal.digitValue c) rest
      (value, count + 1, after)
    else (significand, 0, c :: rest)

/-- Whether the next character is a digit. -/
def startsWithDigit : List Char → Bool
  | c :: _ => Decimal.isDigit c
  | [] => false

/-- A scaled significand as a number of a document. -/
def scaledNumber (negative : Bool) (significand : Nat) (exponent : Int) (rest : List Char) :
    Except Fault (Number × List Char) :=
  match Decimal.approximate significand exponent with
  | some x => .ok (.float (if negative then -x else x), rest)
  | none => .error (here .numberOutOfRange rest)

/-- The digits of an exponent after its first, and whether the exponent stayed below `2 ^ 31`. The
digits after an exponent that did not are passed over only if the number does not depend on it. -/
def exponentDigits (exponent : Nat) : List Char → Nat × Bool × List Char
  | [] => (exponent, true, [])
  | c :: rest =>
    if Decimal.isDigit c then
      if 10 * exponent + Decimal.digitValue c < 0x80000000 then
        exponentDigits (10 * exponent + Decimal.digitValue c) rest
      else (exponent, false, rest)
    else (exponent, true, c :: rest)

/-- An exponent, after the letter that leads it. -/
def exponentPart (negative : Bool) (significand : Nat) (shift : Int) (cs : List Char) :
    Except Fault (Number × List Char) :=
  let (down, cs) :=
    match cs with
    | '+' :: rest => (false, rest)
    | '-' :: rest => (true, rest)
    | other => (false, other)
  match cs with
  | [] => .error (here .endInValue [])
  | c :: rest =>
    if Decimal.isDigit c then
      match exponentDigits (Decimal.digitValue c) rest with
      | (exponent, true, rest) =>
        scaledNumber negative significand (if down then shift - exponent else shift + exponent) rest
      | (_, false, rest) =>
        if significand ≠ 0 ∧ ¬ down then .error (here .numberOutOfRange rest)
        else .ok (.float (if negative then -0.0 else 0.0), rest.dropWhile Decimal.isDigit)
    else .error (past .badNumber (c :: rest))

/-- What may follow the digits of a number with a fraction: an exponent, or nothing. -/
def afterFraction (negative : Bool) (significand : Nat) (shift : Int) (cs : List Char) :
    Except Fault (Number × List Char) :=
  match cs with
  | 'e' :: rest => exponentPart negative significand shift rest
  | 'E' :: rest => exponentPart negative significand shift rest
  | other => scaledNumber negative significand shift other

/-- The digits after a decimal point. Those that no longer fit the significand are passed over. -/
def fractionPart (negative : Bool) (significand : Nat) (shift : Int) (cs : List Char) :
    Except Fault (Number × List Char) :=
  let (value, count, rest) := takeDigits significand cs
  if startsWithDigit rest then
    afterFraction negative value (shift - count) (rest.dropWhile Decimal.isDigit)
  else if count = 0 then
    match rest with
    | [] => .error (here .endInValue [])
    | other => .error (past .badNumber other)
  else
    afterFraction negative value (shift - count) rest

/-- What may follow the whole digits of a number that is not an integer of 64 bits. -/
def afterWhole (negative : Bool) (significand : Nat) (shift : Int) (cs : List Char) :
    Except Fault (Number × List Char) :=
  match cs with
  | '.' :: rest => fractionPart negative significand shift rest
  | other => afterFraction negative significand shift other

/-- What may follow the whole digits of a number; nothing more makes it an integer. Negative zero
and integers below `-2 ^ 63` are floating-point numbers. -/
def afterInteger (negative : Bool) (significand : Nat) (cs : List Char) :
    Except Fault (Number × List Char) :=
  match cs with
  | '.' :: rest => fractionPart negative significand 0 rest
  | 'e' :: rest => exponentPart negative significand 0 rest
  | 'E' :: rest => exponentPart negative significand 0 rest
  | other =>
    if negative = false then .ok (.int significand, other)
    else if significand = 0 ∨ UInt64.size < 2 * significand then
      .ok (.float (-(Float.ofNat significand)), other)
    else .ok (.int (-(significand : Int)), other)

/-- A number after its sign. Whole digits that no longer fit the significand raise the exponent. -/
def number (negative : Bool) (cs : List Char) : Except Fault (Number × List Char) :=
  match cs with
  | [] => .error (here .endInValue [])
  | '0' :: rest =>
    if startsWithDigit rest then .error (past .badNumber rest)
    else afterInteger negative 0 rest
  | c :: rest =>
    if Decimal.isDigit c then
      let (value, _, after) := takeDigits (Decimal.digitValue c) rest
      if startsWithDigit after then
        let more := after.takeWhile Decimal.isDigit
        afterWhole negative value more.length (after.dropWhile Decimal.isDigit)
      else afterInteger negative value after
    else .error (past .badNumber (c :: rest))

end Assay.Json
