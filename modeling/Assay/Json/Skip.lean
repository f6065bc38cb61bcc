import Assay.Json.Reader

/-!
# Passing over a value

A member that nobody asked for is passed over without being built. Its brackets may nest to any
depth, and its strings and numbers are checked for their form only.
-/

namespace Assay.Json

/-! ## Strings and numbers -/

/-- Passes over the characters of a string and its closing quote. -/
def skipChars : List Char → List Char → Except Fault (List Char)
  | [], _ => .error (here .endInString [])
  | _ :: bound, cs =>
    match cs with
    | [] => .error (here .endInString [])
    | '"' :: rest => .ok rest
    | '\\' :: 'u' :: rest => do
      let (_, rest) ← hexFour rest
      skipChars bound rest
    | '\\' :: rest => do
      let (_, rest) ← escape rest
      skipChars bound rest
    | c :: rest =>
      if c.toNat < 32 then .error (here .controlCharacter (c :: rest)) else skipChars bound rest

/-- Passes over a string after its opening quote. -/
def skipString (cs : List Char) : Except Fault (List Char) :=
  skipChars ('"' :: cs) cs

/-- Passes over an exponent after the letter that leads it. -/
def skipExponent (cs : List Char) : Except Fault (List Char) :=
  let cs :=
    match cs with
    | '+' :: rest => rest
    | '-' :: rest => rest
    | other => other
  if startsWithDigit cs then .ok (cs.dropWhile Decimal.isDigit)
  else .error (past .badNumber cs)

/-- Passes over an exponent, if there is one. -/
def skipAfterFraction : List Char → Except Fault (List Char)
  | 'e' :: rest => skipExponent rest
  | 'E' :: rest => skipExponent rest
  | other => .ok other

/-- Passes over what may follow the whole digits of a number. -/
def skipAfterWhole : List Char → Except Fault (List Char)
  | '.' :: rest =>
    if startsWithDigit rest then skipAfterFraction (rest.dropWhile Decimal.isDigit)
    else .error (past .badNumber rest)
  | other => skipAfterFraction other

/-- Passes over a number after its sign. -/
def skipNumber (cs : List Char) : Except Fault (List Char) :=
  match cs with
  | '0' :: rest =>
    if startsWithDigit rest then .error (past .badNumber rest) else skipAfterWhole rest
  | _ =>
    if startsWithDigit cs then skipAfterWhole (cs.dropWhile Decimal.isDigit)
    else .error (past .badNumber cs)

/-! ## Values -/

/-- The bracket that an open list or object began with. -/
inductive Open where
  | list
  | object
  deriving DecidableEq, Repr

/-- Where a walk through a value stands. -/
inductive Expecting where
  /-- A value comes next. -/
  | aValue
  /-- The name of a member comes next. -/
  | aName
  /-- A value was read: more of what it is in comes next. -/
  | more
  deriving DecidableEq, Repr

/-- What comes next in a list or an object whose next part is not its end. -/
def Open.part : Open → Expecting
  | .list => .aValue
  | .object => .aName

/-- Passes over one simple value, or opens a list or an object. -/
def skipScalar (cs : List Char) : Except Fault (Option Open × List Char) :=
  match cs with
  | [] => .error (here .endInValue [])
  | 'n' :: rest => do .ok (none, ← word ['u', 'l', 'l'] rest)
  | 't' :: rest => do .ok (none, ← word ['r', 'u', 'e'] rest)
  | 'f' :: rest => do .ok (none, ← word ['a', 'l', 's', 'e'] rest)
  | '-' :: rest => do .ok (none, ← skipNumber rest)
  | '"' :: rest => do .ok (none, ← skipString rest)
  | '[' :: rest => .ok (some .list, rest)
  | '\x7b' :: rest => .ok (some .object, rest)
  | c :: rest =>
    if Decimal.isDigit c then do .ok (none, ← skipNumber (c :: rest))
    else .error (past .valueExpected (c :: rest))

/-- What comes next in a list or an object: its end, or something else. -/
def nextInside (bracket : Open) (cs : List Char) : Except Fault (List Char ⊕ List Char) :=
  match bracket, skipBlanks cs with
  | .list, [] => .error (here .endInList [])
  | .list, ']' :: rest => .ok (.inl rest)
  | .object, [] => .error (here .endInObject [])
  | .object, '\x7d' :: rest => .ok (.inl rest)
  | _, rest => .ok (.inr rest)

/-- The name of a member, which is passed over with its colon. -/
def skipName (cs : List Char) : Except Fault (List Char) :=
  match skipBlanks cs with
  | [] => .error (here .endInObject [])
  | '"' :: rest => do colon (← skipString rest)
  | rest => .error (past .nameExpected rest)

/-- Walks through a value with the brackets that are open, the innermost first. -/
def skipFrom : List Char → Expecting → List Open → List Char → Except Fault (List Char)
  | [], _, _, _ => .error (here .endInValue [])
  | _ :: bound, .aValue, stack, cs => do
    match ← skipScalar (skipBlanks cs) with
    | (none, rest) => skipFrom bound .more stack rest
    | (some bracket, rest) =>
      match ← nextInside bracket rest with
      | .inl rest => skipFrom bound .more stack rest
      | .inr rest => skipFrom bound bracket.part (bracket :: stack) rest
  | _ :: bound, .aName, stack, cs => do skipFrom bound .aValue stack (← skipName cs)
  | _ :: _, .more, [], cs => .ok cs
  | _ :: bound, .more, bracket :: stack, cs => do
    match bracket, ← nextInside bracket cs with
    | _, .inl rest => skipFrom bound .more stack rest
    | _, .inr (',' :: rest) => skipFrom bound bracket.part (bracket :: stack) rest
    | .list, .inr rest => .error (past .listEndExpected rest)
    | .object, .inr rest => .error (past .objectEndExpected rest)

/-- Passes over a value. The last round reads nothing, so the bound is one longer than the text. -/
def skip (cs : List Char) : Except Fault (List Char) :=
  skipFrom (' ' :: cs) .aValue [] cs

end Assay.Json
