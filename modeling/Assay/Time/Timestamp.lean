import Assay.Decimal.Natural
import Assay.Text.Blank

/-!
# Points in time

A point in time is a date and a time of day in UTC, with nanoseconds. It is written as in RFC 3339,
with as many groups of three fraction digits as it needs; a second numbered sixty is a leap second.
Reading also takes other offsets from UTC, single digits, and blanks between the parts.
-/

namespace Assay

/-- A date of the Gregorian calendar, extended to all years. -/
structure Date where
  year : Int
  month : Nat
  day : Nat
  deriving DecidableEq, Repr

/-- A date and a time of day in UTC. -/
structure Timestamp where
  date : Date
  hour : Nat
  minute : Nat
  second : Nat
  nanosecond : Nat
  deriving DecidableEq, Repr

namespace Date

/-- Whether a year has a twenty-ninth of February. -/
def isLeap (year : Int) : Bool :=
  year % 4 == 0 && (year % 100 != 0 || year % 400 == 0)

/-- The number of days of a month. -/
def monthLength (year : Int) (month : Nat) : Nat :=
  if month = 2 then (if isLeap year then 29 else 28)
  else if month = 4 ∨ month = 6 ∨ month = 9 ∨ month = 11 then 30
  else 31

/-- The day after. -/
def next (d : Date) : Date :=
  if d.day < monthLength d.year d.month then ⟨d.year, d.month, d.day + 1⟩
  else if d.month < 12 then ⟨d.year, d.month + 1, 1⟩
  else ⟨d.year + 1, 1, 1⟩

/-- The day before. -/
def previous (d : Date) : Date :=
  if 1 < d.day then ⟨d.year, d.month, d.day - 1⟩
  else if 1 < d.month then ⟨d.year, d.month - 1, monthLength d.year (d.month - 1)⟩
  else ⟨d.year - 1, 12, 31⟩

/-- The first and the last year that dates are known of. -/
def inRange (year : Int) : Bool :=
  decide (-262143 ≤ year ∧ year ≤ 262142)

/-- Whether the day is one of its month. -/
def isValid (d : Date) : Bool :=
  inRange d.year && decide (1 ≤ d.day ∧ d.day ≤ monthLength d.year d.month)

/-- The date some days after the first of January 1970, or before it. The count runs in years that
begin in March, so that a leap day comes last; 400 years have 146097 days. -/
def ofEpochDay (days : Int) : Date :=
  let shifted := days + 719468
  let era := Int.fdiv shifted 146097
  let dayOfEra := (shifted - era * 146097).toNat
  let yearOfEra :=
    (dayOfEra - dayOfEra / 1460 + dayOfEra / 36524 - dayOfEra / 146096) / 365
  let dayOfYear := dayOfEra - (365 * yearOfEra + yearOfEra / 4 - yearOfEra / 100)
  let shiftedMonth := (5 * dayOfYear + 2) / 153
  let day := dayOfYear - (153 * shiftedMonth + 2) / 5 + 1
  let month := if shiftedMonth < 10 then shiftedMonth + 3 else shiftedMonth - 9
  ⟨era * 400 + yearOfEra + (if month ≤ 2 then 1 else 0), month, day⟩

end Date

namespace Timestamp

/-- The point in time some nanoseconds after the beginning of 1970. -/
def ofEpochNanoseconds (n : Nat) : Timestamp :=
  let seconds := n / 1000000000
  let ofDay := seconds % 86400
  ⟨.ofEpochDay (seconds / 86400), ofDay / 3600, ofDay / 60 % 60, ofDay % 60, n % 1000000000⟩

/-! ## Writing -/

/-- A year in four digits; years outside of them carry a sign. -/
def yearChars (year : Int) : List Char :=
  if 0 ≤ year ∧ year ≤ 9999 then Decimal.padded 4 year.toNat
  else (if year < 0 then '-' else '+') :: Decimal.padded 4 year.natAbs

/-- The fraction of a second in three, six or nine digits, or nothing when it is zero. -/
def fractionChars (nanosecond : Nat) : List Char :=
  if nanosecond = 0 then []
  else if nanosecond % 1000000 = 0 then '.' :: Decimal.padded 3 (nanosecond / 1000000)
  else if nanosecond % 1000 = 0 then '.' :: Decimal.padded 6 (nanosecond / 1000)
  else '.' :: Decimal.padded 9 nanosecond

/-- A point in time as text. -/
def chars (t : Timestamp) : List Char :=
  yearChars t.date.year ++ '-' :: Decimal.padded 2 t.date.month ++
    '-' :: Decimal.padded 2 t.date.day ++ 'T' :: Decimal.padded 2 t.hour ++
    ':' :: Decimal.padded 2 t.minute ++ ':' :: Decimal.padded 2 t.second ++
    fractionChars t.nanosecond ++ ['Z']

/-- A point in time as text. -/
def text (t : Timestamp) : String :=
  String.ofList t.chars

/-! ## Reading -/

/-- Why a text is no point in time. -/
inductive Error where
  | outOfRange
  | impossible
  | invalid
  | tooShort
  | tooLong
  deriving DecidableEq, Repr

/-- The wording of an error. -/
def Error.message : Error → String
  | .outOfRange => "input is out of range"
  | .impossible => "no possible date and time matching input"
  | .invalid => "input contains invalid characters"
  | .tooShort => "premature end of input"
  | .tooLong => "trailing input"

/-- Skips white space. -/
def skipBlanks (cs : List Char) : List Char :=
  cs.dropWhile Text.isBlank

/-- A natural number of at least one and at most `most` digits. -/
def readDigits (most : Nat) (cs : List Char) : Except Error (Nat × List Char) :=
  let ds := (cs.take most).takeWhile Decimal.isDigit
  if cs.isEmpty then .error .tooShort
  else if ds.isEmpty then .error .invalid
  else .ok (Decimal.ofDigits ds, cs.drop ds.length)

/-- A number of two digits between two bounds, after blanks. -/
def readPart (least most : Nat) (cs : List Char) : Except Error (Nat × List Char) := do
  let (n, rest) ← readDigits 2 (skipBlanks cs)
  if least ≤ n ∧ n ≤ most then .ok (n, rest) else .error .outOfRange

/-- A year: of at most four digits, or of any number of them after a sign. It has at most 32
bits. -/
def readYear (cs : List Char) : Except Error (Int × List Char) :=
  let bounded (year : Int) (rest : List Char) : Except Error (Int × List Char) :=
    if -0x80000000 ≤ year ∧ year < 0x80000000 then .ok (year, rest) else .error .outOfRange
  match skipBlanks cs with
  | '-' :: rest => do
    let (n, rest) ← readDigits rest.length rest
    bounded (-n) rest
  | '+' :: rest => do
    let (n, rest) ← readDigits rest.length rest
    bounded n rest
  | rest => do
    let (n, rest) ← readDigits 4 rest
    bounded n rest

/-- A mark between two parts, after blanks. -/
def readMark (mark : Char) (cs : List Char) : Except Error (List Char) :=
  match skipBlanks cs with
  | [] => .error .tooShort
  | c :: rest => if c = mark then .ok rest else .error .invalid

/-- A fraction of a second in nanoseconds; digits after the ninth are left out. -/
def readFraction (cs : List Char) : Except Error (Nat × List Char) :=
  match cs with
  | '.' :: rest => do
    let (n, after) ← readDigits 9 rest
    let count := rest.length - after.length
    .ok (n * Nat.pow 10 (9 - count), after.dropWhile Decimal.isDigit)
  | rest => .ok (0, rest)

/-- Two digits of an offset, the first at most `most`. -/
def readTwo (most : Nat) (cs : List Char) : Except Error (Nat × List Char) :=
  match cs with
  | a :: b :: rest =>
    if Decimal.isDigit a ∧ Decimal.isDigit b then
      if Decimal.digitValue a ≤ most then
        .ok (10 * Decimal.digitValue a + Decimal.digitValue b, rest)
      else .error .outOfRange
    else .error .invalid
  | [a] => if a.utf8Size < 2 then .error .tooShort else .error .invalid
  | [] => .error .tooShort

/-- An offset from UTC in minutes. -/
def readOffset (cs : List Char) : Except Error (Int × List Char) :=
  let signed (sign : Int) (cs : List Char) : Except Error (Int × List Char) := do
    let (hours, rest) ← readTwo 9 cs
    let (minutes, rest) ← readTwo 5 (rest.dropWhile fun c => c == ':' || Text.isBlank c)
    .ok (sign * (60 * hours + minutes), rest)
  match cs with
  | [] => .error .tooShort
  | c :: rest =>
    if c = 'Z' ∨ c = 'z' then .ok (0, rest)
    else if (cs.take 3).map Char.toUpper = ['U', 'T', 'C'] then .ok (0, cs.drop 3)
    else if c = '+' then signed 1 rest
    else if c = '-' ∨ c.toNat = 0x2212 then signed (-1) rest
    else .error .invalid

/-- The point in time at a local date and time, given the offset of that place from UTC. -/
def atOffset (date : Date) (hour minute second nanosecond : Nat) (offset : Int) :
    Except Error Timestamp :=
  let minutes := 60 * (hour : Int) + minute - offset
  if ¬ date.isValid ∨ 1440 ≤ offset ∨ offset ≤ -1440 then .error .outOfRange
  else
    let (day, minutes) :=
      if minutes < 0 then (date.previous, minutes + 1440)
      else if 1440 ≤ minutes then (date.next, minutes - 1440)
      else (date, minutes)
    if Date.inRange day.year then
      .ok ⟨day, minutes.toNat / 60, minutes.toNat % 60, second, nanosecond⟩
    else .error .impossible

/-- The point in time that a text gives. -/
def parse (text : List Char) : Except Error Timestamp := do
  let (year, cs) ← readYear text
  let cs ← readMark '-' cs
  let (month, cs) ← readPart 1 12 cs
  let cs ← readMark '-' cs
  let (day, cs) ← readPart 1 31 cs
  let cs ←
    match cs with
    | [] => .error .tooShort
    | c :: rest => if c = 'T' ∨ c = 't' ∨ c = ' ' then .ok rest else .error .invalid
  let (hour, cs) ← readPart 0 23 cs
  let cs ← readMark ':' cs
  let (minute, cs) ← readPart 0 59 cs
  let cs ← readMark ':' cs
  let (second, cs) ← readPart 0 60 cs
  let (nanosecond, cs) ← readFraction cs
  let (offset, cs) ← readOffset (skipBlanks cs)
  if skipBlanks cs = [] then atOffset ⟨year, month, day⟩ hour minute second nanosecond offset
  else .error .tooLong

end Timestamp

end Assay
