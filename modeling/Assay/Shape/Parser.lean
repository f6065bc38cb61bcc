import Assay.Shape.Basic

/-!
# Reading a shape

A shape is written `str`, or one of `list`, `List`, `set` and `Set`, the last four with the shape
of their items in square brackets if they have one. A name is a maximal run of ASCII letters, and
nothing else may stand in the text.
-/

namespace Assay

/-- Why a text is no shape. -/
inductive ShapeError where
  /-- A name that is not empty and is none of the five. -/
  | unknownType (name : String)
  /-- Any other fault; it shows the whole text. -/
  | badDescription (text : String)
  deriving DecidableEq, Repr

namespace Shape

/-- The letters of a name. -/
def isLetter (c : Char) : Bool :=
  decide (('a' ≤ c ∧ c ≤ 'z') ∨ ('A' ≤ c ∧ c ≤ 'Z'))

/-- What a name stands for. -/
inductive Name where
  | str
  | list
  | set
  deriving DecidableEq, Repr

/-- The five names. -/
def nameOf (letters : List Char) : Option Name :=
  if letters = ['s', 't', 'r'] then some .str
  else if letters = ['l', 'i', 's', 't'] ∨ letters = ['L', 'i', 's', 't'] then some .list
  else if letters = ['s', 'e', 't'] ∨ letters = ['S', 'e', 't'] then some .set
  else none

/-- A name with or without the shape of its items. A string has no items. -/
def ofName : Name → Option Shape → Option Shape
  | .str, none => some .str
  | .str, some _ => none
  | .list, item => some (.list item)
  | .set, item => some (.set item)

/-- Why a shape cannot be read from the characters that are left. -/
inductive Stop where
  | unknown (letters : List Char)
  | malformed
  deriving DecidableEq, Repr

/-- Reads a shape and gives the characters after it. At most `fuel` brackets are opened. -/
def readShape : Nat → List Char → Except Stop (Shape × List Char)
  | fuel, cs =>
    match cs.takeWhile isLetter, cs.dropWhile isLetter with
    | [], _ => .error .malformed
    | letters, rest =>
      match nameOf letters, rest, fuel with
      | none, _, _ => .error (.unknown letters)
      | some _, '[' :: _, 0 => .error .malformed
      | some name, '[' :: inner, fuel + 1 => do
        let (item, rest) ← readShape fuel inner
        match rest with
        | ']' :: rest =>
          match ofName name (some item) with
          | some shape => .ok (shape, rest)
          | none => .error .malformed
        | _ => .error .malformed
      | some name, rest, _ =>
        match ofName name none with
        | some shape => .ok (shape, rest)
        | none => .error .malformed

/-- The shape that a text describes as a whole. -/
def parse (text : String) : Except ShapeError Shape :=
  match readShape text.toList.length text.toList with
  | .ok (shape, []) => .ok shape
  | .error (.unknown letters) => .error (.unknownType (String.ofList letters))
  | _ => .error (.badDescription text)

end Shape

end Assay
