import Assay.Json.Skip
import Assay.Json.Printer
import Assay.Text.Quoted

/-!
# Reading records from JSON

A record is written as an object with a member for each field, or as an array of the fields in
order. Reading goes through the text once, so the first fault in the text is the one reported,
whether it is one of JSON or one of the record. Members that are no fields are passed over.
-/

namespace Assay.Json

/-! ## Values of a wanted kind -/

/-- What is found where a value of another kind is wanted, and the fault that this is. -/
def unwanted (expected : String) (cs : List Char) : Fault :=
  match cs with
  | 'n' :: rest => literal "null" (word ['u', 'l', 'l'] rest)
  | 't' :: rest => literal "boolean `true`" (word ['r', 'u', 'e'] rest)
  | 'f' :: rest => literal "boolean `false`" (word ['a', 'l', 's', 'e'] rest)
  | '-' :: rest => numeric (number true rest)
  | '"' :: rest =>
    match stringBody rest with
    | .ok (s, rest) => here (.wrongType ("string " ++ Text.quoted s) expected) rest
    | .error fault => fault
  | '[' :: rest => here (.wrongType "sequence" expected) ('[' :: rest)
  | '\x7b' :: rest => here (.wrongType "map" expected) ('\x7b' :: rest)
  | c :: rest =>
    if Decimal.isDigit c then numeric (number false (c :: rest))
    else past .valueExpected (c :: rest)
  | [] => past .valueExpected []
where
  /-- A literal name as the unwanted value. -/
  literal (found : String) : Except Fault (List Char) → Fault
    | .ok rest => here (.wrongType found expected) rest
    | .error fault => fault
  /-- A number as the unwanted value. -/
  numeric : Except Fault (Number × List Char) → Fault
    | .ok (.int i, rest) => here (.wrongType ("integer `" ++ toString i ++ "`") expected) rest
    | .ok (.float x, rest) =>
      here (.wrongType ("floating point `" ++ String.ofList (floatChars x) ++ "`") expected) rest
    | .error fault => fault

/-- A string. -/
def readString (cs : List Char) : Except Fault (String × List Char) :=
  match skipBlanks cs with
  | [] => .error (here .endInValue [])
  | '"' :: rest => stringBody rest
  | other => .error (unwanted "a string" other)

/-- A truth value. -/
def readBool (cs : List Char) : Except Fault (Bool × List Char) :=
  match skipBlanks cs with
  | [] => .error (here .endInValue [])
  | 't' :: rest => do .ok (true, ← word ['r', 'u', 'e'] rest)
  | 'f' :: rest => do .ok (false, ← word ['a', 'l', 's', 'e'] rest)
  | other => .error (unwanted "a boolean" other)

/-- A natural number below `2 ^ 64`. -/
def readNat (cs : List Char) : Except Fault (Nat × List Char) :=
  match skipBlanks cs with
  | [] => .error (here .endInValue [])
  | '-' :: rest => do checked (← number true rest)
  | c :: rest =>
    if Decimal.isDigit c then do checked (← number false (c :: rest))
    else .error (unwanted "u64" (c :: rest))
where
  /-- The number, if it is one of the wanted ones. -/
  checked : Number × List Char → Except Fault (Nat × List Char)
    | (.int (.ofNat n), rest) => .ok (n, rest)
    | (.int i, rest) => .error (here (.wrongValue ("integer `" ++ toString i ++ "`") "u64") rest)
    | (.float x, rest) =>
      .error (here (.wrongType ("floating point `" ++ String.ofList (floatChars x) ++ "`") "u64")
        rest)

/-- Null, or a value. -/
def readOption (item : List Char → Except Fault (α × List Char)) (cs : List Char) :
    Except Fault (Option α × List Char) :=
  match skipBlanks cs with
  | 'n' :: rest => do .ok (none, ← word ['u', 'l', 'l'] rest)
  | other => do
    let (value, rest) ← item other
    .ok (some value, rest)

/-- A list of strings. -/
def readStrings (cs : List Char) : Except Fault (List String × List Char) :=
  match skipBlanks cs with
  | [] => .error (here .endInValue [])
  | '[' :: rest => listItems readString ('[' :: rest) true rest
  | other => .error (unwanted "a sequence" other)

/-! ## Records -/

/-- A field of a record that is read into drafts of type `σ`. -/
structure Field (σ : Type) where
  /-- The name of the member. -/
  name : String
  /-- Whether a draft has the field already. -/
  present : σ → Bool
  /-- Reads the field into a draft. -/
  read : σ → List Char → Except Fault (σ × List Char)
  /-- Whether an object must have the member. -/
  required : Bool
  /-- Whether an array that ends before the field is too short. -/
  positional : Bool

/-- A record: what messages call it, and its fields in order. -/
structure Format (σ : Type) where
  name : String
  fields : List (Field σ)

namespace Format

/-- What is expected where the record is read. -/
def expected (format : Format σ) : String :=
  "struct " ++ format.name

/-- Reads the fields of an array after its opening bracket. `first` tells whether no field was read
yet, `index` is the position of the next one. -/
def readList (format : Format σ) :
    List (Field σ) → Nat → Bool → σ → List Char → Except Fault (σ × List Char)
  | [], _, _, draft, cs =>
    match skipBlanks cs with
    | [] => .error (here .endInList [])
    | ']' :: rest => .ok (draft, rest)
    | ',' :: rest =>
      match skipBlanks rest with
      | ']' :: after => .error (past .trailingComma (']' :: after))
      | after => .error (past .trailingCharacters after)
    | rest => .error (past .trailingCharacters rest)
  | field :: fields, index, first, draft, cs => do
    match ← nextItem first cs with
    | .inl rest =>
      if field.positional then
        .error (here (.wrongLength index
          (format.expected ++ " with " ++ toString format.fields.length ++ " elements")) rest)
      else readList format fields (index + 1) first draft (']' :: rest)
    | .inr rest => do
      let (draft, rest) ← field.read draft rest
      readList format fields (index + 1) false draft rest

/-- The place of a fault that lies in the name just read: before the colon. -/
def beforeColon (cs : List Char) : List Char :=
  match skipBlanks cs with
  | '\x7d' :: rest => rest
  | rest => rest

/-- Reads the members of an object up to its closing brace. `first` tells whether no member was
read yet. -/
def readMembers (format : Format σ) :
    List Char → Bool → σ → List Char → Except Fault (σ × List Char)
  | [], _, _, _ => .error (here .endInObject [])
  | _ :: bound, first, draft, cs => do
    match ← nextName first cs with
    | .inl rest =>
      match format.fields.find? fun field => field.required && !field.present draft with
      | some field => .error (here (.missingField field.name) rest)
      | none => .ok (draft, rest)
    | .inr rest => do
      let (name, rest) ← stringBody rest
      match format.fields.find? fun field => field.name == name with
      | some field =>
        if field.present draft then
          .error (here (.duplicateField name) (beforeColon rest))
        else do
          let rest ← colon rest
          let (draft, rest) ← field.read draft rest
          readMembers format bound false draft rest
      | none => do
        let rest ← colon rest
        let rest ← skip rest
        readMembers format bound false draft rest

/-- Reads a record into a draft. -/
def read (format : Format σ) (draft : σ) (cs : List Char) : Except Fault (σ × List Char) :=
  match skipBlanks cs with
  | [] => .error (here .endInValue [])
  | '[' :: rest => format.readList format.fields 0 true draft rest
  | '\x7b' :: rest => format.readMembers ('\x7b' :: rest) true draft rest
  | other => .error (unwanted format.expected other)

/-- The record of a whole text, or the message that tells what is wrong with it. -/
def ofText (format : Format σ) (draft : σ) (text : String) : Except String σ :=
  (readAll (format.read draft) text.toList).mapError (·.message text.toList)

end Format

end Assay.Json
