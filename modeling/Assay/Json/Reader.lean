import Assay.Json.Lexical

/-!
# Reading a JSON text

A text is one document with blanks around it. Arrays and objects nest at most 127 deep: the
bracket that would open one more is a fault.
-/

namespace Assay.Json

/-! ## Lists and objects -/

/-- What comes next in a list: its end, or an item. `first` tells whether no item was read yet. -/
def nextItem (first : Bool) (cs : List Char) : Except Fault (List Char ⊕ List Char) :=
  match first, skipBlanks cs with
  | _, [] => .error (here .endInList [])
  | _, ']' :: rest => .ok (.inl rest)
  | true, rest => .ok (.inr rest)
  | false, ',' :: rest =>
    match skipBlanks rest with
    | [] => .error (here .endInValue [])
    | ']' :: after => .error (past .trailingComma (']' :: after))
    | after => .ok (.inr after)
  | false, rest => .error (past .listEndExpected rest)

/-- The items of a list up to its closing bracket, each read by `item`. `first` tells whether no
item was read yet. -/
def listItems (item : List Char → Except Fault (α × List Char)) :
    List Char → Bool → List Char → Except Fault (List α × List Char)
  | [], _, _ => .error (here .endInList [])
  | _ :: bound, first, cs => do
    match ← nextItem first cs with
    | .inl rest => .ok ([], rest)
    | .inr rest => do
      let (value, rest) ← item rest
      let (values, rest) ← listItems item bound false rest
      .ok (value :: values, rest)

/-- What comes next in an object: its end, or the name of a member. The characters of a name are
left with its opening quote taken. -/
def nextName (first : Bool) (cs : List Char) : Except Fault (List Char ⊕ List Char) :=
  match first, skipBlanks cs with
  | _, [] => .error (here .endInObject [])
  | _, '\x7d' :: rest => .ok (.inl rest)
  | true, '"' :: rest => .ok (.inr rest)
  | true, rest => .error (past .nameExpected rest)
  | false, ',' :: rest =>
    match skipBlanks rest with
    | [] => .error (here .endInValue [])
    | '"' :: after => .ok (.inr after)
    | '\x7d' :: after => .error (past .trailingComma ('\x7d' :: after))
    | after => .error (past .nameExpected after)
  | false, rest => .error (past .objectEndExpected rest)

/-- The colon after a name. -/
def colon (cs : List Char) : Except Fault (List Char) :=
  match skipBlanks cs with
  | [] => .error (here .endInObject [])
  | ':' :: rest => .ok rest
  | rest => .error (past .colonExpected rest)

/-- The members of an object up to its closing brace, in the order of the text. `first` tells
whether no member was read yet. -/
def objectMembers (item : List Char → Except Fault (α × List Char)) :
    List Char → Bool → List Char → Except Fault (List (String × α) × List Char)
  | [], _, _ => .error (here .endInObject [])
  | _ :: bound, first, cs => do
    match ← nextName first cs with
    | .inl rest => .ok ([], rest)
    | .inr rest => do
      let (name, rest) ← stringBody rest
      let rest ← colon rest
      let (value, rest) ← item rest
      let (members, rest) ← objectMembers item bound false rest
      .ok ((name, value) :: members, rest)

/-! ## Values -/

/-- A value with room for `depth` levels of brackets, the first of which is refused. -/
def value : Nat → List Char → Except Fault (Json × List Char)
  | depth, cs =>
    match skipBlanks cs with
    | [] => .error (here .endInValue [])
    | 'n' :: rest => do
      let rest ← word ['u', 'l', 'l'] rest
      .ok (.null, rest)
    | 't' :: rest => do
      let rest ← word ['r', 'u', 'e'] rest
      .ok (.bool true, rest)
    | 'f' :: rest => do
      let rest ← word ['a', 'l', 's', 'e'] rest
      .ok (.bool false, rest)
    | '"' :: rest => do
      let (s, rest) ← stringBody rest
      .ok (.str s, rest)
    | '-' :: rest => do
      let (n, rest) ← number true rest
      .ok (.num n, rest)
    | '[' :: rest =>
      match depth with
      | 0 => .error (past .tooDeep ('[' :: rest))
      | depth + 1 => do
        let (items, rest) ← listItems (value depth) ('[' :: rest) true rest
        .ok (.arr items, rest)
    | '\x7b' :: rest =>
      match depth with
      | 0 => .error (past .tooDeep ('\x7b' :: rest))
      | depth + 1 => do
        let (members, rest) ← objectMembers (value depth) ('\x7b' :: rest) true rest
        .ok (.obj (sortMembers members), rest)
    | c :: rest =>
      if Decimal.isDigit c then do
        let (n, rest) ← number false (c :: rest)
        .ok (.num n, rest)
      else .error (past .valueExpected (c :: rest))

/-- The number of brackets that may be open at once. -/
def depthLimit : Nat := 127

/-- Blanks up to the end of a text. -/
def finish (cs : List Char) : Except Fault Unit :=
  match skipBlanks cs with
  | [] => .ok ()
  | rest => .error (past .trailingCharacters rest)

/-- Applies a reader to a whole text. -/
def readAll (item : List Char → Except Fault (α × List Char)) (text : List Char) :
    Except Fault α := do
  let (result, rest) ← item text
  finish rest
  .ok result

/-- The document of a text. -/
def parse (text : List Char) : Except Fault Json :=
  readAll (value depthLimit) text

/-- The document of a text, or the message that tells what is wrong with it and where. -/
def ofText (text : String) : Except String Json :=
  (parse text.toList).mapError (·.message text.toList)

end Assay.Json
