import Assay.Text.Invisible
import Assay.Text.Unassigned

/-!
# Quoted text

A text between double quotes, on one line and readable: quotes, backslashes and the common control
characters are escaped by a backslash, and characters that could not be seen on their own by their
code point. A path in a message is quoted so, and also escapes apostrophes.
-/

namespace Assay.Text

/-- Characters without a glyph of their own: control and format characters, blanks other than the
space, and characters for private use. -/
def glyphlessRanges : Ranges :=
  [(0x0, 0x1F), (0x7F, 0xA0), (0xAD, 0xAD), (0x600, 0x605), (0x61C, 0x61C), (0x6DD, 0x6DD),
   (0x70F, 0x70F), (0x890, 0x891), (0x8E2, 0x8E2), (0x1680, 0x1680), (0x180E, 0x180E),
   (0x2000, 0x200F), (0x2028, 0x202F), (0x205F, 0x2064), (0x2066, 0x206F), (0x3000, 0x3000),
   (0xE000, 0xF8FF), (0xFEFF, 0xFEFF), (0xFFF9, 0xFFFB), (0x110BD, 0x110BD), (0x110CD, 0x110CD),
   (0x13430, 0x1343F), (0x1BCA0, 0x1BCA3), (0x1D173, 0x1D17A), (0xE0001, 0xE0001),
   (0xE0020, 0xE007F), (0xF0000, 0xFFFFD), (0x100000, 0x10FFFD)]

/-- Whether a character is shown by its code point: it has no glyph, extends another character, is
ignored where it is not understood, or is no character at all. -/
def isHidden (c : Char) : Bool :=
  decide (c.toNat < 0x20 ∨ 0x7F ≤ c.toNat) &&
    (glyphlessRanges.has c || isMark c || isIgnorable c || isUnassigned c)

/-- The lower-case hexadecimal digits of a number. -/
def hexDigits (n : Nat) : List Char :=
  Nat.toDigits 16 n

/-- One character of a quoted text. -/
def quotedChar (escapeApostrophe : Bool) (c : Char) : List Char :=
  if c = '"' then ['\\', '"']
  else if c = '\\' then ['\\', '\\']
  else if c = '\'' then (if escapeApostrophe then ['\\', '\''] else ['\''])
  else if c = '\n' then ['\\', 'n']
  else if c = '\r' then ['\\', 'r']
  else if c = '\t' then ['\\', 't']
  else if c.toNat = 0 then ['\\', '0']
  else if isHidden c then '\\' :: 'u' :: '\x7b' :: (hexDigits c.toNat ++ ['\x7d'])
  else [c]

/-- A text in double quotes. -/
def quoted (s : String) : String :=
  String.ofList ('"' :: (s.toList.flatMap (quotedChar false) ++ ['"']))

/-- A path in double quotes. -/
def quotedPath (s : String) : String :=
  String.ofList ('"' :: (s.toList.flatMap (quotedChar true) ++ ['"']))

end Assay.Text
