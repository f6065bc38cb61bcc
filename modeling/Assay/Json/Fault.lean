/-!
# What is wrong with a JSON text

A fault has a reason and a place. The place is kept as the number of bytes that are left after it,
so that a reader of the rest of a text can name it without knowing what came before; line and
column are computed when the whole text is at hand.
-/

namespace Assay.Json

/-- Why a text is no JSON document, or not one of the wanted form. -/
inductive Reason where
  | endInList
  | endInObject
  | endInString
  | endInValue
  | colonExpected
  | listEndExpected
  | objectEndExpected
  | wordExpected
  | valueExpected
  | badEscape
  | badNumber
  | numberOutOfRange
  | loneSurrogate
  | unfinishedSurrogate
  | controlCharacter
  | nameExpected
  | trailingComma
  | trailingCharacters
  | tooDeep
  | missingField (name : String)
  | duplicateField (name : String)
  | wrongType (found expected : String)
  | wrongValue (found expected : String)
  | wrongLength (count : Nat) (expected : String)
  | other (text : String)
  deriving DecidableEq, Repr, Inhabited

/-- A reason, and the number of bytes from its place to the end of the text. -/
structure Fault where
  reason : Reason
  left : Nat
  deriving DecidableEq, Repr, Inhabited

/-- The wording of a reason. -/
def Reason.message : Reason → String
  | .endInList => "EOF while parsing a list"
  | .endInObject => "EOF while parsing an object"
  | .endInString => "EOF while parsing a string"
  | .endInValue => "EOF while parsing a value"
  | .colonExpected => "expected `:`"
  | .listEndExpected => "expected `,` or `]`"
  | .objectEndExpected => "expected `,` or `\x7d`"
  | .wordExpected => "expected ident"
  | .valueExpected => "expected value"
  | .badEscape => "invalid escape"
  | .badNumber => "invalid number"
  | .numberOutOfRange => "number out of range"
  | .loneSurrogate => "lone leading surrogate in hex escape"
  | .unfinishedSurrogate => "unexpected end of hex escape"
  | .controlCharacter => "control character (\\u0000-\\u001F) found while parsing a string"
  | .nameExpected => "key must be a string"
  | .trailingComma => "trailing comma"
  | .trailingCharacters => "trailing characters"
  | .tooDeep => "recursion limit exceeded"
  | .missingField name => "missing field `" ++ name ++ "`"
  | .duplicateField name => "duplicate field `" ++ name ++ "`"
  | .wrongType found expected => "invalid type: " ++ found ++ ", expected " ++ expected
  | .wrongValue found expected => "invalid value: " ++ found ++ ", expected " ++ expected
  | .wrongLength count expected =>
    "invalid length " ++ toString count ++ ", expected " ++ expected
  | .other text => text

/-! ## Places -/

/-- The bytes of a list of characters in UTF-8. -/
def byteSize (cs : List Char) : Nat :=
  cs.foldl (fun n c => n + c.utf8Size) 0

/-- Line and column after `offset` bytes: lines count from one, columns count the bytes since the
last line break. -/
def position (text : List Char) (offset : Nat) : Nat × Nat :=
  go text offset 1 0
where
  /-- Walks on from a line and a column with some bytes still to go. -/
  go : List Char → Nat → Nat → Nat → Nat × Nat
    | [], _, line, column => (line, column)
    | c :: rest, offset, line, column =>
      if offset = 0 then (line, column)
      else if offset < c.utf8Size then (line, column + offset)
      else if c = '\n' then go rest (offset - 1) (line + 1) 0
      else go rest (offset - c.utf8Size) line (column + c.utf8Size)

/-- The whole message about a text: the reason, and where. -/
def Fault.message (fault : Fault) (text : List Char) : String :=
  let place := position text (byteSize text - fault.left)
  fault.reason.message ++ " at line " ++ toString place.1 ++ " column " ++ toString place.2

end Assay.Json
