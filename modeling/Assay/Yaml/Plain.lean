import Assay.Yaml.Scalar

/-!
# Plain scalars

What the text of a plain scalar stands for where nothing particular is wanted: null, a truth value
or a number if it is written like one, and otherwise the text itself. Digits with a zero before them
write no number.
-/

namespace Assay.Yaml

/-- The words for null. -/
def isNullWord (text : String) : Bool :=
  ["null", "Null", "NULL", "~"].contains text

/-- The digits of a number in some base, as that number. -/
def ofBase (base : Nat) (ds : List Char) : Option Nat :=
  let values := ds.filterMap fun c => (Json.hexValue c).filter (decide <| · < base)
  if ds.isEmpty ∨ values.length < ds.length then none
  else some (values.foldl (fun n d => base * n + d) 0)

/-- Whether a text has a leading zero before other digits, so that it is no number. -/
def hasLeadingZero (cs : List Char) : Bool :=
  let cs := if cs.head? = some '-' ∨ cs.head? = some '+' then cs.drop 1 else cs
  match cs with
  | '0' :: c :: rest => (c :: rest).all Decimal.isDigit
  | _ => false

/-- The natural number that digits write, with a prefix for another base than ten. -/
def ofDigits (cs : List Char) : Option Nat :=
  let based :=
    match cs with
    | '0' :: 'x' :: rest => ofBase 16 rest
    | '0' :: 'o' :: rest => ofBase 8 rest
    | '0' :: 'b' :: rest => ofBase 2 rest
    | _ => none
  based <|> if hasLeadingZero cs then none else ofBase 10 cs

/-- The natural number that a plain scalar writes; a plus may lead it. -/
def natural? (text : String) : Option Nat :=
  match text.toList with
  | '+' :: rest => ofDigits rest
  | cs => ofDigits cs

/-- The negative integer that a plain scalar writes, without its sign. -/
def negative? (text : String) : Option Nat :=
  match text.toList with
  | '-' :: rest => ofDigits rest
  | _ => none

/-- Digits with a point among or beside them: all digits, and how many follow the point. -/
def decimalDigits (cs : List Char) : Option (List Char × Nat × List Char) :=
  let whole := cs.takeWhile Decimal.isDigit
  let (fraction, rest) :=
    match cs.dropWhile Decimal.isDigit with
    | '.' :: rest => (rest.takeWhile Decimal.isDigit, rest.dropWhile Decimal.isDigit)
    | rest => ([], rest)
  if whole.isEmpty ∧ fraction.isEmpty then none
  else some (whole ++ fraction, fraction.length, rest)

/-- The exponent at the end of a number. -/
def exponent? : List Char → Option Int
  | [] => some 0
  | c :: rest =>
    if c = 'e' ∨ c = 'E' then
      match rest with
      | '-' :: ds => (ofBase 10 ds).map fun n => -(n : Int)
      | '+' :: ds => (ofBase 10 ds).map fun n => (n : Int)
      | ds => (ofBase 10 ds).map fun n => (n : Int)
    else none

/-- Whether a text writes a floating-point number that is finite, an infinity, or no number. Zeros
may lead it. -/
def isFloat (text : String) : Bool :=
  let cs := text.toList
  let unsigned := if cs.head? = some '+' ∨ cs.head? = some '-' then cs.drop 1 else cs
  let words := [".inf", ".Inf", ".INF", "+.inf", "+.Inf", "+.INF", "-.inf", "-.Inf", "-.INF",
    ".nan", ".NaN", ".NAN"]
  let finite :=
    match decimalDigits unsigned with
    | none => false
    | some (ds, places, rest) =>
      match exponent? rest with
      | none => false
      | some e =>
        let coefficient := Decimal.ofDigits ds
        let scale := e - places
        coefficient == 0 || decide (scale + ds.length ≤ 308) ||
          (decide (scale ≤ 400) &&
            (Float.ofScientific coefficient (scale < 0) scale.natAbs).isFinite)
  words.contains text || finite

/-! ## Meanings -/

/-- What a scalar stands for where nothing particular is wanted. -/
inductive Meaning where
  | null
  | bool (value : Bool)
  | natural (value : Nat)
  | number
  | text (value : String)
  /-- An integer that is too large for the formats that documents are read into. -/
  | unsupported
  deriving DecidableEq, Repr

/-- The truth value that a text writes. -/
def truthValue? (text : String) : Option Bool :=
  if ["true", "True", "TRUE"].contains text then some true
  else if ["false", "False", "FALSE"].contains text then some false
  else none

/-- The integer that a text writes, if it has at most 128 bits. -/
def integer? (text : String) : Option Meaning :=
  match natural? text, negative? text with
  | some n, _ =>
    if n < UInt64.size then some (.natural n)
    else if n < UInt64.size * UInt64.size then some .unsupported
    else none
  | none, some n =>
    if 2 * n ≤ UInt64.size then some .number
    else if 2 * n ≤ UInt64.size * UInt64.size then some .unsupported
    else none
  | none, none => none

/-- What a plain scalar stands for. -/
def plainMeaning (text : String) : Meaning :=
  if text = "" ∨ isNullWord text then .null
  else
    match truthValue? text with
    | some b => .bool b
    | none =>
      match integer? text with
      | some meaning => meaning
      | none =>
        if !hasLeadingZero text.toList && isFloat text then .number else .text text

end Assay.Yaml
