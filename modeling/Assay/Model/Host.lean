import Assay.Decimal.Natural
import Assay.Json.Lexical
import Assay.Text.Utf8

/-!
# Hosts

The host of an address is a name or the number of a machine. Numbers of four bytes are written with
dots, also in octal and hexadecimal digits and with several bytes in the last part; numbers of eight
pieces are written in brackets with colons, where one run of zeros may be left out. The mapping of
international names (IDNA) is left out: characters of a name beyond ASCII stay as they are, where it
would replace them, write the name in Punycode or refuse it.
-/

namespace Assay

/-- Why a text is no host. -/
inductive HostError where
  | emptyHost
  | badName
  | badV4
  | badV6
  deriving DecidableEq, Repr

/-- The wording of an error. -/
def HostError.message : HostError → String
  | .emptyHost => "empty host"
  | .badName => "invalid international domain name"
  | .badV4 => "invalid IPv4 address"
  | .badV6 => "invalid IPv6 address"

/-- The host of an address. -/
inductive Host where
  | name (text : String)
  | v4 (number : Nat)
  | v6 (pieces : List Nat)
  deriving DecidableEq, Repr

namespace Host

/-! ## Digits -/

/-- The number that digits write in some base, if all of them are digits of the base. -/
def ofDigits? (base : Nat) (cs : List Char) : Option Nat :=
  cs.foldlM (fun n c => do
    let d ← Json.hexValue c
    if d < base then some (base * n + d) else none) 0

/-- The bytes of a text in which a percent sign leads the two digits of a byte. -/
def percentBytes : List Char → List UInt8
  | '%' :: a :: b :: rest =>
    match ofDigits? 16 [a, b] with
    | some n => UInt8.ofNat n :: percentBytes rest
    | none => '%'.toString.toUTF8.toList ++ percentBytes (a :: b :: rest)
  | c :: rest => c.toString.toUTF8.toList ++ percentBytes rest
  | [] => []

/-- The text whose bytes may be written after percent signs. -/
def percentDecode (cs : List Char) : Option (List Char) :=
  (Text.Utf8.decode (percentBytes cs)).map String.toList

/-! ## Four bytes -/

/-- A part of a number of four bytes. -/
def partOfV4 : List Char → Option Nat
  | [] => none
  | '0' :: 'x' :: rest => ofDigits? 16 rest
  | '0' :: 'X' :: rest => ofDigits? 16 rest
  | '0' :: rest => ofDigits? 8 rest
  | cs => ofDigits? 10 cs

/-- The parts of a name between its dots; a dot at the end adds none. -/
def dottedParts (cs : List Char) : List (List Char) :=
  let parts := cs.splitOn '.'
  if 1 < parts.length ∧ parts.getLast? = some [] then parts.dropLast else parts

/-- Whether a name is meant as a number: its last part is one, or looks like one. -/
def endsInNumber (cs : List Char) : Bool :=
  match (dottedParts cs).getLast? with
  | some [] => false
  | some last => last.all Decimal.isDigit || (partOfV4 last).isSome
  | none => false

/-- The number of four bytes that some parts write: each but the last is one byte, and the last one
all that are left. -/
def ofParts (parts : List Nat) : Option Nat :=
  match parts.getLast? with
  | none => none
  | some last =>
    let bytes := parts.dropLast
    let room := Nat.pow 256 (4 - bytes.length)
    if 3 < bytes.length ∨ room ≤ last ∨ bytes.any (fun b => decide (255 < b)) then none
    else some (bytes.foldl (fun n b => 256 * n + b) 0 * room + last)

/-! ## Eight pieces -/

/-- A piece: up to four hexadecimal digits. -/
def piece (cs : List Char) : Option Nat :=
  if cs = [] ∨ 4 < cs.length then none else ofDigits? 16 cs

/-- The two pieces of four bytes with dots. -/
def dottedPieces (cs : List Char) : Option (List Nat) := do
  let bytes ← (cs.splitOn '.').mapM fun part =>
    match part with
    | [] => none
    | '0' :: _ :: _ => none
    | _ => do
      let n ← ofDigits? 10 part
      if n ≤ 255 then some n else none
  match bytes with
  | [a, b, c, d] => some [256 * a + b, 256 * c + d]
  | _ => none

/-- Pieces with colons between them. The last one may be four bytes with dots, where `dotted`. -/
def pieces (dotted : Bool) : List (List Char) → Option (List Nat)
  | [] => some []
  | [last] =>
    if dotted && last.contains '.' then dottedPieces last else (piece last).map ([·])
  | part :: rest => do some ((← piece part) :: (← pieces dotted rest))

/-- The parts of a text between its colons; an empty text has none. -/
def colonParts (cs : List Char) : List (List Char) :=
  if cs = [] then [] else cs.splitOn ':'

/-- What comes before two colons in a row, and after them. -/
def splitRun : List Char → Option (List Char × List Char)
  | ':' :: ':' :: rest => some ([], rest)
  | c :: rest => (splitRun rest).map fun (before, after) => (c :: before, after)
  | [] => none

/-- The pieces that a text writes. Two colons in a row stand for the zeros that are missing. -/
def ofColons (cs : List Char) : Option (List Nat) := do
  match splitRun cs with
  | none =>
    let all ← pieces true (colonParts cs)
    if all.length = 8 then some all else none
  | some (before, after) =>
    let first ← pieces false (colonParts before)
    let last ← pieces true (colonParts after)
    if 7 < first.length + last.length then none
    else some (first ++ List.replicate (8 - first.length - last.length) 0 ++ last)

/-! ## Reading -/

/-- Whether a character may stand in a name. -/
def inName (c : Char) : Bool :=
  decide (0x20 < c.toNat ∧ c.toNat ≠ 0x7F) && !"#%/:<>?@[\\]^|".toList.contains c

/-- The host that a text writes. -/
def parse (cs : List Char) : Except HostError Host := do
  match cs with
  | '[' :: rest =>
    if rest.getLast? ≠ some ']' then .error .badV6
    else
      match ofColons rest.dropLast with
      | some pieces => .ok (.v6 pieces)
      | none => .error .badV6
  | _ =>
    let some decoded := percentDecode cs | .error .badName
    let name := decoded.map Char.toLower
    if name.isEmpty then .error .emptyHost
    else if ¬ name.all inName then .error .badName
    else if endsInNumber name then
      match (dottedParts name).mapM partOfV4 >>= ofParts with
      | some number => .ok (.v4 number)
      | none => .error .badV4
    else .ok (.name (String.ofList name))

/-! ## Writing -/

/-- The length of the run of zeros at the beginning. -/
def zeroRun (pieces : List Nat) : Nat :=
  (pieces.takeWhile (· == 0)).length

/-- The length of the longest run of zeros. -/
def longestRun : List Nat → Nat
  | [] => 0
  | p :: rest => max (zeroRun (p :: rest)) (longestRun rest)

/-- The pieces before the first run of zeros of some length, and those after it. -/
def cutRun (length : Nat) : List Nat → List Nat × List Nat
  | [] => ([], [])
  | p :: rest =>
    if zeroRun (p :: rest) = length then ([], (p :: rest).drop length)
    else
      let (before, after) := cutRun length rest
      (p :: before, after)

/-- Pieces with colons between them. -/
def piecesText (pieces : List Nat) : List Char :=
  List.intercalate [':'] (pieces.map (Nat.toDigits 16))

/-- A host as machines are looked up by it. The first of the longest runs of two or more zeros is
left out. -/
def machine : Host → String
  | .name text => text
  | .v4 n =>
    String.ofList (List.intercalate ['.']
      ([n / 16777216, n / 65536 % 256, n / 256 % 256, n % 256].map Decimal.digits))
  | .v6 pieces =>
    let run := longestRun pieces
    if run < 2 then String.ofList (piecesText pieces)
    else
      let (before, after) := cutRun run pieces
      String.ofList (piecesText before ++ [':', ':'] ++ piecesText after)

/-- A host as it is written in an address: eight pieces stand in brackets. -/
def text (host : Host) : String :=
  match host with
  | .v6 _ => "[" ++ host.machine ++ "]"
  | _ => host.machine

end Host

end Assay
