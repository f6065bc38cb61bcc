/-!
# Places in a YAML text

A cursor is the rest of a text together with the line and the column that it starts at. Columns
matter in YAML, since blocks are told apart by their indentation.
-/

namespace Assay.Yaml

/-- What is wrong with a text, and where. -/
structure Fault where
  problem : String
  line : Nat
  column : Nat
  deriving DecidableEq, Repr

/-- The wording of a fault; lines and columns count from one here. -/
def Fault.message (f : Fault) : String :=
  f.problem ++ " at line " ++ toString (f.line + 1) ++ " column " ++ toString (f.column + 1)

/-! ## Characters -/

/-- Spaces and tabs. -/
def isBlank (c : Char) : Bool :=
  c == ' ' || c == '\t'

/-- Characters that end a line. -/
def isBreak (c : Char) : Bool :=
  c == '\n' || c == '\r' || c.toNat == 0x85 || c.toNat == 0x2028 || c.toNat == 0x2029

/-- The grave accent, which begins no token. -/
def backquote : Char := Char.ofNat 0x60

/-- Characters that a text may hold at all. -/
def isAllowed (c : Char) : Bool :=
  c == '\t' || c == '\n' || c == '\r' || c.toNat == 0x85 ||
    decide (0x20 ≤ c.toNat ∧ c.toNat ≤ 0x7E) ||
    decide (0xA0 ≤ c.toNat ∧ c.toNat ≤ 0xFFFD) ||
    decide (0x10000 ≤ c.toNat)

/-- Letters, digits, dashes and underlines. -/
def isWordChar (c : Char) : Bool :=
  c.isAlphanum || c == '-' || c == '_'

/-- Whether a text starts with a blank, starts with a line break, or is empty. -/
def blankOrEnd : List Char → Bool
  | [] => true
  | c :: _ => isBlank c || isBreak c

/-- Whether a text starts with a line break or is empty. -/
def breakOrEnd : List Char → Bool
  | [] => true
  | c :: _ => isBreak c

/-! ## Cursors -/

/-- The rest of a text and where it starts. -/
structure Cursor where
  rest : List Char
  line : Nat
  column : Nat
  /-- The number of bytes before it. -/
  offset : Nat
  deriving Repr

namespace Cursor

/-- The beginning of a text. -/
def start (text : List Char) : Cursor :=
  ⟨text, 0, 0, 0⟩

/-- A fault at the cursor. -/
def fault (cur : Cursor) (problem : String) : Fault :=
  ⟨problem, cur.line, cur.column⟩

/-- Past some characters of the same line. -/
def advanceBy (cur : Cursor) (count : Nat) : Cursor :=
  ⟨cur.rest.drop count, cur.line, cur.column + count,
    (cur.rest.take count).foldl (fun n c => n + c.utf8Size) cur.offset⟩

/-- Past one character of the same line. -/
def advance (cur : Cursor) : Cursor :=
  cur.advanceBy 1

/-- The characters that a line break stands for, and the cursor past it. A carriage return, a line
feed and both together are one line feed. -/
def takeBreak (cur : Cursor) : List Char × Cursor :=
  match cur.rest with
  | '\r' :: '\n' :: rest => (['\n'], ⟨rest, cur.line + 1, 0, cur.offset + 2⟩)
  | c :: rest =>
    (if c.toNat = 0x2028 ∨ c.toNat = 0x2029 then [c] else ['\n'],
      ⟨rest, cur.line + 1, 0, cur.offset + c.utf8Size⟩)
  | [] => ([], cur)

/-- Whether the cursor stands at the beginning of a line that marks the start or the end of a
document by three characters. -/
def atMark (cur : Cursor) (mark : Char) : Bool :=
  cur.column == 0 && cur.rest.take 3 == [mark, mark, mark] && blankOrEnd (cur.rest.drop 3)

/-- Whether the cursor stands at a mark between documents. -/
def atDocumentMark (cur : Cursor) : Bool :=
  cur.atMark '-' || cur.atMark '.'

/-- Past the characters of the line that satisfy a test. -/
def skipWhile (cur : Cursor) (test : Char → Bool) : Cursor :=
  cur.advanceBy (cur.rest.takeWhile test).length

/-- Past the byte order mark at the beginning of a line. It takes a column like any character. -/
def skipByteOrderMark (cur : Cursor) : Cursor :=
  if cur.column = 0 ∧ cur.rest.head?.any (·.toNat == 0xFEFF) then cur.advance else cur

end Cursor

end Assay.Yaml
