import Assay.Json.Value
import Assay.Decimal.Shortest

/-!
# JSON text

Two writings of a document: compact, with no blanks at all, and indented by two spaces for each
level. Both escape the quote, the backslash and the control characters, and nothing else.
-/

namespace Assay.Json

/-! ## Strings and numbers -/

/-- The lower-case hexadecimal digit of a number below sixteen. -/
def hexDigit (d : Nat) : Char :=
  if d < 10 then Char.ofNat (48 + d) else Char.ofNat (87 + d)

/-- One character inside a string. -/
def escapeChar (c : Char) : List Char :=
  if c = '"' then ['\\', '"']
  else if c = '\\' then ['\\', '\\']
  else if c.toNat < 32 then
    if c = '\n' then ['\\', 'n']
    else if c = '\r' then ['\\', 'r']
    else if c = '\t' then ['\\', 't']
    else if c.toNat = 8 then ['\\', 'b']
    else if c.toNat = 12 then ['\\', 'f']
    else ['\\', 'u', '0', '0', hexDigit (c.toNat / 16), hexDigit (c.toNat % 16)]
  else [c]

/-- A string between its quotes. -/
def quoteChars (s : List Char) : List Char :=
  '"' :: (s.flatMap escapeChar ++ ['"'])

/-- Floating-point numbers are positional from `0.00001` up to, and without, `1e+16`. -/
def numberLayout : Decimal.Layout := ⟨-5, 16⟩

/-- The text of a floating-point number; what is not finite is written as null. -/
def floatChars (x : Float) : List Char :=
  match Decimal.Binary64.ofFloat x with
  | .finite negative mantissa exponent =>
    Decimal.shortestFinite numberLayout negative mantissa exponent
  | _ => ['n', 'u', 'l', 'l']

/-- The text of a number. -/
def Number.chars : Number → List Char
  | .int (.ofNat n) => Decimal.digits n
  | .int (.negSucc n) => '-' :: Decimal.digits (n + 1)
  | .float x => floatChars x

/-! ## Compact text -/

mutual

/-- The compact text of a document. -/
def compactChars : Json → List Char
  | .null => ['n', 'u', 'l', 'l']
  | .bool true => ['t', 'r', 'u', 'e']
  | .bool false => ['f', 'a', 'l', 's', 'e']
  | .num n => n.chars
  | .str s => quoteChars s.toList
  | .arr [] => ['[', ']']
  | .arr (item :: rest) => '[' :: (compactChars item ++ compactItems rest)
  | .obj [] => ['\x7b', '\x7d']
  | .obj ((name, value) :: rest) =>
    '\x7b' :: (quoteChars name.toList ++ ':' :: (compactChars value ++ compactMembers rest))

/-- The items after the first, each led by a comma, and the closing bracket. -/
def compactItems : List Json → List Char
  | [] => [']']
  | item :: rest => ',' :: (compactChars item ++ compactItems rest)

/-- The members after the first, each led by a comma, and the closing brace. -/
def compactMembers : List (String × Json) → List Char
  | [] => ['\x7d']
  | (name, value) :: rest =>
    ',' :: (quoteChars name.toList ++ ':' :: (compactChars value ++ compactMembers rest))

end

/-- The compact text of a document. -/
def compact (v : Json) : String :=
  String.ofList (compactChars v)

/-! ## Indented text -/

/-- A line break and the blanks of an indentation depth. -/
def newline (depth : Nat) : List Char :=
  '\n' :: List.replicate (2 * depth) ' '

mutual

/-- The indented text of a document that stands at a depth. -/
def prettyChars (depth : Nat) : Json → List Char
  | .arr [] => ['[', ']']
  | .arr (item :: rest) =>
    '[' :: (newline (depth + 1) ++ prettyChars (depth + 1) item ++ prettyItems depth rest)
  | .obj [] => ['\x7b', '\x7d']
  | .obj ((name, value) :: rest) =>
    '\x7b' :: (newline (depth + 1) ++ quoteChars name.toList ++ ':' :: ' ' ::
      (prettyChars (depth + 1) value ++ prettyMembers depth rest))
  | .null => ['n', 'u', 'l', 'l']
  | .bool true => ['t', 'r', 'u', 'e']
  | .bool false => ['f', 'a', 'l', 's', 'e']
  | .num n => n.chars
  | .str s => quoteChars s.toList

/-- The items after the first on lines of their own, and the closing bracket. -/
def prettyItems (depth : Nat) : List Json → List Char
  | [] => newline depth ++ [']']
  | item :: rest =>
    ',' :: (newline (depth + 1) ++ prettyChars (depth + 1) item ++ prettyItems depth rest)

/-- The members after the first on lines of their own, and the closing brace. -/
def prettyMembers (depth : Nat) : List (String × Json) → List Char
  | [] => newline depth ++ ['\x7d']
  | (name, value) :: rest =>
    ',' :: (newline (depth + 1) ++ quoteChars name.toList ++ ':' :: ' ' ::
      (prettyChars (depth + 1) value ++ prettyMembers depth rest))

end

/-- The indented text of a document. -/
def pretty (v : Json) : String :=
  String.ofList (prettyChars 0 v)

end Assay.Json
