import Assay.Json.Record
import Assay.Time.Timestamp

/-!
# Traces of model calls

What is logged of the call that was made for a program: when it began and how long it took, the
first completion or the error, and whether the completion could be read as a prediction. A trace is
one JSON object; what is absent is left out of it.
-/

namespace Assay

/-- When a call began and how many milliseconds it took, if the clock did not go back. -/
structure Timing where
  start : Timestamp
  milliseconds : Option Nat
  deriving DecidableEq, Repr

/-- A clock that tells the nanoseconds since the beginning of 1970. -/
abbrev Clock (m : Type → Type) := m Nat

/-- The time from one reading of a clock to another; parts of a millisecond do not count. -/
def Timing.between (start finish : Nat) : Timing :=
  let milliseconds := Int.tdiv ((finish : Int) - (start : Int)) 1000000
  ⟨.ofEpochNanoseconds start, if milliseconds < 0 then none else some milliseconds.toNat⟩

/-- What is logged of one call. -/
structure Trace where
  program : String
  timing : Timing
  output : Option String
  parsed : Bool
  error : Option String
  deriving DecidableEq, Repr

namespace Trace

/-! ## Writing -/

/-- A trace as a JSON object in the order of its fields. -/
def toJson (t : Trace) : Json :=
  let optional (name : String) (value : Option Json) : List (String × Json) :=
    match value with
    | some v => [(name, v)]
    | none => []
  .obj (
    [("program", .str t.program), ("start", .str t.timing.start.text)] ++
    optional "duration_ms" (t.timing.milliseconds.map fun n => .num (.int n)) ++
    optional "output" (t.output.map .str) ++
    [("parsed", .bool t.parsed)] ++
    optional "error" (t.error.map .str))

/-- The line of a trace, without the line break after it. -/
def lineChars (t : Trace) : List Char :=
  t.toJson.compactChars

/-! ## Reading -/

/-- The fields of a trace that were read so far. -/
structure Draft where
  program : Option String
  start : Option Timestamp
  milliseconds : Option (Option Nat)
  output : Option (Option String)
  parsed : Option Bool
  error : Option (Option String)

/-- A draft without fields. -/
def Draft.empty : Draft := ⟨none, none, none, none, none, none⟩

/-- A field; those that may be absent from an object are still needed in an array. -/
def field (name : String) (required : Bool) (get : Draft → Option β) (set : Draft → β → Draft)
    (read : List Char → Except Json.Fault (β × List Char)) : Json.Field Draft where
  name := name
  present d := (get d).isSome
  read d cs := (read cs).map fun (value, rest) => (set d value, rest)
  required := required
  positional := true

/-- A point in time, written as a string. -/
def readStart (cs : List Char) : Except Json.Fault (Timestamp × List Char) :=
  match Json.skipBlanks cs with
  | [] => .error (Json.here .endInValue [])
  | '"' :: rest => do
    let (text, rest) ← Json.stringBody rest
    match Timestamp.parse text.toList with
    | .ok t => .ok (t, rest)
    | .error e => .error (Json.here (.other e.message) rest)
  | other => .error (Json.unwanted "an RFC 3339 formatted date and time string" other)

open Json in
/-- Traces as records. -/
def format : Json.Format Draft where
  name := "GenerationTrace"
  fields := [
    field "program" true Draft.program (fun d v => { d with program := v }) readString,
    field "start" true Draft.start (fun d v => { d with start := v }) readStart,
    field "duration_ms" false Draft.milliseconds (fun d v => { d with milliseconds := some v })
      (readOption readNat),
    field "output" false Draft.output (fun d v => { d with output := some v })
      (readOption readString),
    field "parsed" true Draft.parsed (fun d v => { d with parsed := v }) readBool,
    field "error" false Draft.error (fun d v => { d with error := some v })
      (readOption readString)]

/-- The trace of a draft, if the fields that every trace has are there. -/
def ofDraft? (d : Draft) : Option Trace := do
  .some {
    program := ← d.program
    timing := ⟨← d.start, d.milliseconds.getD none⟩
    output := d.output.getD none
    parsed := ← d.parsed
    error := d.error.getD none }

/-- The trace of a line, or the message that tells what is wrong with it. -/
def ofLine (line : String) : Except String Trace := do
  let draft ← format.ofText .empty line
  match ofDraft? draft with
  | some t => .ok t
  | none => .error "incomplete trace"

end Trace

end Assay
