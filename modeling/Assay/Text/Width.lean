import Assay.Text.Emoji
import Assay.Text.Ligature
import Assay.Text.Unassigned

/-!
# Display width

The number of columns that a text takes in a terminal. Most characters take one column, the wide
ones of East Asian scripts and the emoji two, marks and other invisible characters none. Some
sequences take other widths than their characters one by one: a line break of two characters,
emoji with a selector, a skin tone or joiners between them, and ligatures. A sequence shows at its
end, so a text is measured from its end to its beginning.
-/

namespace Assay.Text

/-! ## Single characters -/

/-- Characters of two columns: the wide and the fullwidth ones of East Asian scripts. -/
def wideRanges : Ranges :=
  [(0x1100, 0x115F), (0x231A, 0x231B), (0x2329, 0x232A), (0x23E9, 0x23EC), (0x23F0, 0x23F0),
   (0x23F3, 0x23F3), (0x25FD, 0x25FE), (0x2614, 0x2615), (0x2630, 0x2637), (0x2648, 0x2653),
   (0x267F, 0x267F), (0x268A, 0x268F), (0x2693, 0x2693), (0x26A1, 0x26A1), (0x26AA, 0x26AB),
   (0x26BD, 0x26BE), (0x26C4, 0x26C5), (0x26CE, 0x26CE), (0x26D4, 0x26D4), (0x26EA, 0x26EA),
   (0x26F2, 0x26F3), (0x26F5, 0x26F5), (0x26FA, 0x26FA), (0x26FD, 0x26FD), (0x2705, 0x2705),
   (0x270A, 0x270B), (0x2728, 0x2728), (0x274C, 0x274C), (0x274E, 0x274E), (0x2753, 0x2755),
   (0x2757, 0x2757), (0x2795, 0x2797), (0x27B0, 0x27B0), (0x27BF, 0x27BF), (0x2B1B, 0x2B1C),
   (0x2B50, 0x2B50), (0x2B55, 0x2B55), (0x2E80, 0x2E99), (0x2E9B, 0x2EF3), (0x2F00, 0x2FD5),
   (0x2FF0, 0x303E), (0x3041, 0x3096), (0x3099, 0x30FF), (0x3105, 0x312F), (0x3131, 0x318E),
   (0x3190, 0x31E5), (0x31EF, 0x321E), (0x3220, 0x3247), (0x3250, 0xA48C), (0xA490, 0xA4C6),
   (0xA960, 0xA97C), (0xAC00, 0xD7A3), (0xF900, 0xFAFF), (0xFE10, 0xFE19), (0xFE30, 0xFE52),
   (0xFE54, 0xFE66), (0xFE68, 0xFE6B), (0xFF01, 0xFF60), (0xFFE0, 0xFFE6), (0x16FE0, 0x16FE4),
   (0x16FF0, 0x16FF6), (0x17000, 0x18CD5), (0x18CFF, 0x18D1E), (0x18D80, 0x18DF2),
   (0x1AFF0, 0x1AFF3), (0x1AFF5, 0x1AFFB), (0x1AFFD, 0x1AFFE), (0x1B000, 0x1B122),
   (0x1B132, 0x1B132), (0x1B150, 0x1B152), (0x1B155, 0x1B155), (0x1B164, 0x1B167),
   (0x1B170, 0x1B2FB), (0x1D300, 0x1D356), (0x1D360, 0x1D376), (0x1F004, 0x1F004),
   (0x1F0CF, 0x1F0CF), (0x1F18E, 0x1F18E), (0x1F191, 0x1F19A), (0x1F200, 0x1F202),
   (0x1F210, 0x1F23B), (0x1F240, 0x1F248), (0x1F250, 0x1F251), (0x1F260, 0x1F265),
   (0x1F300, 0x1F320), (0x1F32D, 0x1F335), (0x1F337, 0x1F37C), (0x1F37E, 0x1F393),
   (0x1F3A0, 0x1F3CA), (0x1F3CF, 0x1F3D3), (0x1F3E0, 0x1F3F0), (0x1F3F4, 0x1F3F4),
   (0x1F3F8, 0x1F43E), (0x1F440, 0x1F440), (0x1F442, 0x1F4FC), (0x1F4FF, 0x1F53D),
   (0x1F54B, 0x1F54E), (0x1F550, 0x1F567), (0x1F57A, 0x1F57A), (0x1F595, 0x1F596),
   (0x1F5A4, 0x1F5A4), (0x1F5FB, 0x1F64F), (0x1F680, 0x1F6C5), (0x1F6CC, 0x1F6CC),
   (0x1F6D0, 0x1F6D2), (0x1F6D5, 0x1F6D8), (0x1F6DC, 0x1F6DF), (0x1F6EB, 0x1F6EC),
   (0x1F6F4, 0x1F6FC), (0x1F7E0, 0x1F7EB), (0x1F7F0, 0x1F7F0), (0x1F90C, 0x1F93A),
   (0x1F93C, 0x1F945), (0x1F947, 0x1F9FF), (0x1FA70, 0x1FA7C), (0x1FA80, 0x1FA8A),
   (0x1FA8E, 0x1FAC6), (0x1FAC8, 0x1FAC8), (0x1FACD, 0x1FADC), (0x1FADF, 0x1FAEA),
   (0x1FAEF, 0x1FAF8), (0x20000, 0x2FFFD), (0x30000, 0x3FFFD)]

/-- Whether a character is wide by itself. -/
def isWide (c : Char) : Bool :=
  decide (0x1100 ≤ c.toNat) && wideRanges.has c

/-- The columns of a character that stands alone. The independent vowel aa of Khmer is as wide as
the two letters that it is written for, and its sign for "and so on" as the three of it. -/
def charWidth (c : Char) : Nat :=
  if c.toNat < 0xA1 then 1
  else if isInvisible c then 0
  else if c.toNat = 0x17D8 then 3
  else if c.toNat = 0x17A4 ∨ isWide c ∨ reservedPictographRanges.has c then 2
  else 1

/-! ## What follows a character -/

/-- A way of showing a character that a selector after it asks for. -/
inductive Presentation where
  | text
  | emoji
  /-- The wide form of a quotation mark. -/
  | wide
  deriving DecidableEq, Repr

/-- The way of showing that a selector asks for. -/
def Presentation.ofSelector? (c : Char) : Option Presentation :=
  if c.toNat = 0xFE0E then some .text
  else if c.toNat = 0xFE0F then some .emoji
  else if c.toNat = 0xFE01 then some .wide
  else none

/-- How a text starts, as far as the columns of a character before it depend on it. -/
inductive Start where
  | other
  | lineFeed
  | skinTone
  /-- One letter of flags, or several of them. -/
  | flagLetters (several : Bool)
  | emoji
  /-- A joiner before an emoji. -/
  | joiner
  /-- The frame of a keycap, joined to an emoji after it. -/
  | joinedKeycap
  /-- A single letter of flags, joined to an emoji after it. -/
  | joinedFlagLetter
  /-- Several letters of flags, joined to an emoji; `paired` if they are pairs. -/
  | joinedFlags (paired : Bool)
  /-- The end of the tag of a flag, joined to an emoji: how many letters there are at its beginning,
  or how many digits. -/
  | joinedTag (letters digits : Nat)
  /-- A letter that forms ligatures, and whether a joiner stands before it. -/
  | letter (letter : Letter) (joined : Bool)
  /-- A vowel sign e of Kirat Rai, two of which are a sign ai. -/
  | vowelE
  /-- A vowel sign ai of Kirat Rai. -/
  | vowelAi
  deriving DecidableEq, Repr

/-- How a text starts, after the selector that it starts with. -/
structure Following where
  selected : Option Presentation
  start : Start
  deriving DecidableEq, Repr

namespace Start

/-- A start without a selector before it. -/
def bare (start : Start) : Following := ⟨none, start⟩

/-- A start with a selector before it. Ligatures are formed across selectors, and a joined emoji
may have one of its own. -/
def select (start : Start) (presentation : Presentation) : Following :=
  match start with
  | .letter .. => ⟨some presentation, start⟩
  | .joiner | .joinedKeycap =>
    ⟨some presentation, if presentation = .emoji then start else .other⟩
  | _ => ⟨some presentation, .other⟩

/-- The start that a character is by itself. -/
def ofChar (c : Char) : Start :=
  if c = '\n' then .lineFeed
  else if c.toNat < 0x5DC then .other
  else if isSkinTone c then .skinTone
  else if isFlagLetter c then .flagLetters false
  else if isEmoji c then .emoji
  else if c.toNat = 0x16D67 then .vowelE
  else if c.toNat = 0x16D68 then .vowelAi
  else
    match Letter.ofChar? c with
    | some l => .letter l false
    | none => .other

/-- What a start becomes by a joiner before it, if the joiner belongs to it. -/
def joinEmoji? : Start → Option Start
  | .emoji | .skinTone | .flagLetters true | .joinedFlags _ => some .joiner
  | _ => none

/-- A character before a start that it forms a sequence with: the columns that it adds, and the
start that it makes. -/
def extend? (start : Start) (c : Char) : Option (Int × Start) :=
  let code := c.toNat
  match start with
  | .other | .emoji | .joinedKeycap => none
  | .lineFeed => if c = '\r' then some (0, .other) else none
  | .skinTone => if isToned c then some (0, .emoji) else none
  | .flagLetters _ => if isFlagLetter c then some (1, .flagLetters true) else none
  | .joiner =>
    if code = 0x20E3 then some (0, .joinedKeycap)
    else if isFlagLetter c then some (1, .joinedFlagLetter)
    else if isSkinTone c then some (0, .skinTone)
    else if code = 0xE007F then some (0, .joinedTag 0 0)
    else if isEmoji c then some (0, .emoji)
    else none
  | .joinedFlagLetter | .joinedFlags false =>
    if isFlagLetter c then some (-1, .joinedFlags true) else none
  | .joinedFlags true => if isFlagLetter c then some (3, .joinedFlags false) else none
  | .joinedTag letters digits =>
    if isTagLetter c ∧ digits = 0 ∧ letters < 6 then some (0, .joinedTag (letters + 1) 0)
    else if isTagDigit c ∧ letters ≤ 4 ∧ digits < 3 then some (0, .joinedTag 0 (digits + 1))
    else if code = 0x1F3F4 ∧ (3 ≤ letters ∨ digits = 3) then some (0, .emoji)
    else none
  | .letter l joined =>
    if l ≠ .alef ∧ isJoiner c then some (0, .letter l true)
    else if l ≠ .alef ∧ isBridging c then some (0, .letter l joined)
    else (l.join joined c).map fun (columns, rest) =>
      (columns, match rest with
        | some l => .letter l false
        | none => .other)
  | .vowelE =>
    if code = 0x16D67 then some (0, .vowelAi)
    else if code = 0x16D68 then some (1, .vowelE)
    else if code = 0x16D63 ∨ code = 0x16D69 then some (0, .other)
    else none
  | .vowelAi => if code = 0x16D63 then some (0, .other) else none

end Start

namespace Following

/-- What follows the last character of a text. -/
def nothing : Following := ⟨none, .other⟩

/-- The start that is left where the selector before it has no effect. -/
def unselected (next : Following) : Start :=
  match next.selected, next.start with
  | none, start => start
  | some _, .letter l joined => .letter l joined
  | some _, _ => .other

/-- A character that the selector after it has an effect on: its columns, and the start that it
makes. Two joined emoji take the columns of one. -/
def shown? (next : Following) (c : Char) : Option (Int × Start) :=
  match next.selected with
  | some .emoji =>
    if isStyled c then
      some (if next.start = .joiner ∨ next.start = .joinedKeycap then 0 else 2, .emoji)
    else none
  | some .text =>
    if isStyled c ∧ isEmoji c ∧ ¬ (0x1F200 ≤ c.toNat ∧ c.toNat ≤ 0x1F2FF) then some (1, .other)
    else none
  | some .wide =>
    if [0x2018, 0x2019, 0x201C, 0x201D].contains c.toNat then some (2, .other) else none
  | none => none

/-- The columns that a character adds to what follows it, and what the two of them start with. -/
def precede (next : Following) (c : Char) : Int × Following :=
  match next.shown? c with
  | some (columns, start) => (columns, start.bare)
  | none =>
    let start := next.unselected
    match Presentation.ofSelector? c with
    | some presentation => (0, start.select presentation)
    | none =>
      match if isJoiner c then start.joinEmoji? else none with
      | some joined => (0, joined.bare)
      | none =>
        match start.extend? c with
        | some (columns, start) => (columns, start.bare)
        | none => (charWidth c, (Start.ofChar c).bare)

end Following

/-- The columns of one line of text. -/
def width (s : List Char) : Nat :=
  (s.foldr (fun c (total, next) =>
    let (columns, here) := next.precede c
    (total + columns, here)) ((0 : Int), Following.nothing)).1.toNat

end Assay.Text
