import Assay.Text.Invisible

/-!
# Ligatures

Letters that are drawn as one with the letters before them, and so take less columns together than
one by one. For some of them a joiner has to stand between the letters.
-/

namespace Assay.Text

/-- The invisible character that joins its neighbours. -/
def isJoiner (c : Char) : Bool :=
  c.toNat == 0x200D

/-- The Arabic letters of the form of an alef. -/
def alefRanges : Ranges :=
  [(0x622, 0x623), (0x625, 0x625), (0x627, 0x627), (0x671, 0x673), (0x675, 0x675),
   (0x773, 0x774), (0x870, 0x882)]

/-- The Arabic letters of the form of a lam. -/
def lamRanges : Ranges :=
  [(0x644, 0x644), (0x6B5, 0x6B8), (0x76A, 0x76A), (0x8A6, 0x8A6), (0x8C7, 0x8C7)]

/-- The consonants of Tifinagh. -/
def tifinaghRanges : Ranges :=
  [(0x2D31, 0x2D65), (0x2D6F, 0x2D6F)]

/-- The letters of Khmer whose form below another letter takes no column. -/
def subjoinedRanges : Ranges :=
  [(0x1780, 0x1782), (0x1784, 0x1787), (0x1789, 0x178C), (0x178E, 0x1793), (0x1795, 0x1798),
   (0x179B, 0x179D), (0x17A0, 0x17A0), (0x17A2, 0x17A2), (0x17A7, 0x17A7), (0x17AB, 0x17AC),
   (0x17AF, 0x17AF)]

/-- The second part of a possible ligature. -/
inductive Letter where
  /-- An Arabic alef, which joins with a lam. -/
  | alef
  /-- A Hebrew lamed, which a joiner joins with an alef. -/
  | lamed
  /-- A Buginese ya, which a joiner joins with a vowel sign and an a. -/
  | ya
  /-- That vowel sign with its ya. -/
  | voweledYa
  /-- A consonant of Tifinagh, which a joiner joins with another one. -/
  | tifinagh
  /-- A consonant of Tifinagh with the joining sign of its own script before it. -/
  | joinedTifinagh
  /-- A second tone letter of Lisu, which joins with a first one. -/
  | tone
  /-- An i of Old Turkic, which a joiner joins with an op. -/
  | orkhonI
  /-- A letter of Khmer, which the sign coeng puts below the letter before it. -/
  | khmer
  deriving DecidableEq, Repr

namespace Letter

/-- The letter that a character is. -/
def ofChar? (c : Char) : Option Letter :=
  if alefRanges.has c then some .alef
  else if c.toNat = 0x5DC then some .lamed
  else if c.toNat = 0x1A10 then some .ya
  else if tifinaghRanges.has c then some .tifinagh
  else if c.toNat = 0xA4FC ∨ c.toNat = 0xA4FD then some .tone
  else if c.toNat = 0x10C03 then some .orkhonI
  else if subjoinedRanges.has c then some .khmer
  else none

/-- What becomes of a letter by a character before it: the columns that the character adds, and the
letter that still waits for others, if there is one. `joined` tells whether a joiner stands between
them. -/
def join (letter : Letter) (joined : Bool) (c : Char) : Option (Int × Option Letter) :=
  let code := c.toNat
  match letter with
  | .alef =>
    if lamRanges.has c then some (0, none)
    else if isTransparent c then some (0, some .alef)
    else none
  | .lamed => if joined ∧ code = 0x5D0 then some (0, none) else none
  | .ya => if joined ∧ code = 0x1A17 then some (0, some .voweledYa) else none
  | .voweledYa => if code = 0x1A15 then some (0, none) else none
  | .tifinagh =>
    if code = 0x2D7F then some (1, some .joinedTifinagh)
    else if joined ∧ tifinaghRanges.has c then some (0, none)
    else none
  | .joinedTifinagh => if tifinaghRanges.has c then some (-1, none) else none
  | .tone => if 0xA4F8 ≤ code ∧ code ≤ 0xA4FB then some (0, none) else none
  | .orkhonI => if joined ∧ code = 0x10C32 then some (0, none) else none
  | .khmer => if code = 0x17D2 then some (-1, none) else none

end Letter

end Assay.Text
