import Assay.Json.Lexical
import Assay.Yaml.Cursor

/-!
# Scalars of YAML

The texts of plain, quoted and block scalars. Line breaks inside of plain and quoted scalars, and
of folded block scalars, are folded: a single one becomes a space, and of several the first is left
out.
-/

namespace Assay.Yaml

/-- How a scalar is written. -/
inductive ScalarStyle where
  | plain
  | quoted
  | literal
  | folded
  deriving DecidableEq, Repr

/-! ## Gaps between words -/

/-- What stands between two words of a scalar. -/
structure Gap where
  /-- The blanks, as long as there was no line break. -/
  blanks : List Char
  /-- The first line break. -/
  first : List Char
  /-- The line breaks after the first. -/
  more : List Char
  /-- Whether there was a line break. -/
  broken : Bool

namespace Gap

/-- No gap. -/
def none : Gap := ⟨[], [], [], false⟩

/-- The gap after a line break that was escaped. -/
def escaped : Gap := ⟨[], [], [], true⟩

/-- What a gap stands for. -/
def folded (g : Gap) : List Char :=
  if g.broken then
    match g.first with
    | '\n' :: _ => if g.more = [] then [' '] else g.more
    | _ => g.first ++ g.more
  else g.blanks

/-- Reads on in a gap. A tab before the column `least` at the beginning of a line is a fault. -/
def read (least : Int) : Nat → Gap → Cursor → Except Fault (Gap × Cursor)
  | 0, g, cur => .ok (g, cur)
  | fuel + 1, g, cur =>
    match cur.rest with
    | [] => .ok (g, cur)
    | c :: _ =>
      if isBlank c then
        if g.broken then
          if c = '\t' ∧ (cur.column : Int) < least then
            .error (cur.fault "found a tab character that violates indentation")
          else read least fuel g cur.advance
        else read least fuel { g with blanks := g.blanks ++ [c] } cur.advance
      else if isBreak c then
        let (text, next) := cur.takeBreak
        if g.broken then read least fuel { g with more := g.more ++ text } next
        else read least fuel ⟨[], text, [], true⟩ next
      else .ok (g, cur)

end Gap

/-! ## Quoted scalars -/

/-- A number of hexadecimal digits as a character. -/
def hexEscape (count : Nat) (cur : Cursor) : Except Fault (Char × Cursor) :=
  let ds := (cur.rest.take count).filterMap Json.hexValue
  let code := ds.foldl (fun n d => 16 * n + d) 0
  if ds.length < count then
    .error (cur.fault "did not find expected hexdecimal number")
  else if (0xD800 ≤ code ∧ code ≤ 0xDFFF) ∨ 0x10FFFF < code then
    .error (cur.fault "found invalid Unicode character escape code")
  else .ok (Char.ofNat code, cur.advanceBy count)

/-- The character of a one-letter escape. -/
def shortEscape (c : Char) : Option Char :=
  match c with
  | '0' => some '\x00'
  | 'a' => some '\x07'
  | 'b' => some '\x08'
  | 't' => some '\t'
  | '\t' => some '\t'
  | 'n' => some '\n'
  | 'v' => some '\x0b'
  | 'f' => some '\x0c'
  | 'r' => some '\r'
  | 'e' => some '\x1b'
  | ' ' => some ' '
  | '"' => some '"'
  | '/' => some '/'
  | '\\' => some '\\'
  | 'N' => some (Char.ofNat 0x85)
  | '_' => some (Char.ofNat 0xA0)
  | 'L' => some (Char.ofNat 0x2028)
  | 'P' => some (Char.ofNat 0x2029)
  | _ => none

/-- An escape, after its backslash. -/
def readEscape (cur : Cursor) : Except Fault (Char × Cursor) :=
  match cur.rest with
  | 'x' :: _ => hexEscape 2 cur.advance
  | 'u' :: _ => hexEscape 4 cur.advance
  | 'U' :: _ => hexEscape 8 cur.advance
  | c :: _ =>
    match shortEscape c with
    | some d => .ok (d, cur.advance)
    | none => .error (cur.fault "found unknown escape character")
  | [] => .error (cur.fault "found unknown escape character")

/-- The characters of a quoted scalar up to a blank, a line break or its end, and the gap that an
escaped line break opens. -/
def quotedWord (double : Bool) :
    Nat → List Char → Cursor → Except Fault (List Char × Gap × Cursor)
  | 0, word, cur => .ok (word.reverse, .none, cur)
  | fuel + 1, word, cur =>
    match double, cur.rest with
    | _, [] => .ok (word.reverse, .none, cur)
    | false, '\'' :: '\'' :: _ => quotedWord double fuel ('\'' :: word) (cur.advanceBy 2)
    | false, '\'' :: _ => .ok (word.reverse, .none, cur)
    | true, '"' :: _ => .ok (word.reverse, .none, cur)
    | true, '\\' :: after =>
      if after.head?.any isBreak then .ok (word.reverse, .escaped, cur.advance.takeBreak.2)
      else do
        let (c, next) ← readEscape cur.advance
        quotedWord double fuel (c :: word) next
    | _, c :: _ =>
      if isBlank c || isBreak c then .ok (word.reverse, .none, cur)
      else quotedWord double fuel (c :: word) cur.advance

/-- Whether the cursor stands at the quote that ends a scalar. -/
def atQuote (double : Bool) (cur : Cursor) : Bool :=
  cur.rest.head? == some (if double then '"' else '\'')

/-- A text from its parts, the last first. -/
def joinParts (parts : List (List Char)) : List Char :=
  parts.reverse.flatten

/-- A quoted scalar after its opening quote. `parts` is what was read, the last first; `fuel` is
more than the number of characters left. -/
def quotedScalar (double : Bool) :
    (fuel : Nat) → (parts : List (List Char)) → Cursor → Except Fault (String × Cursor)
  | 0, _, cur => .error (cur.fault "found unexpected end of stream")
  | fuel + 1, parts, cur =>
    if cur.atDocumentMark then .error (cur.fault "found unexpected document indicator")
    else if cur.rest.isEmpty then .error (cur.fault "found unexpected end of stream")
    else do
      let (word, gap, cur) ← quotedWord double (fuel + 1) [] cur
      if atQuote double cur then .ok (String.ofList (joinParts (word :: parts)), cur.advance)
      else do
        let (gap, cur) ← gap.read 0 (fuel + 1) cur
        quotedScalar double fuel (gap.folded :: word :: parts) cur

/-! ## Plain scalars -/

/-- Whether a character has a meaning of its own between the brackets of a flow collection. -/
def isFlowMark (c : Char) : Bool :=
  c == ',' || c == '[' || c == ']' || c == '\x7b' || c == '\x7d'

/-- Whether a plain scalar ends here although no blank follows. -/
def endsPlain (flow : Bool) : List Char → Bool
  | ':' :: rest => blankOrEnd rest
  | c :: _ => flow && isFlowMark c
  | [] => true

/-- The characters of a plain scalar up to a blank, a line break or its end. -/
def plainWord (flow : Bool) : Nat → List Char → Cursor → Except Fault (List Char × Cursor)
  | 0, word, cur => .ok (word.reverse, cur)
  | fuel + 1, word, cur =>
    match cur.rest with
    | [] => .ok (word.reverse, cur)
    | c :: rest =>
      if isBlank c || isBreak c then .ok (word.reverse, cur)
      else if flow && c == ':' && rest.head?.any (fun d => isFlowMark d || d == '?') then
        .error (cur.fault "found unexpected ':'")
      else if endsPlain flow cur.rest then .ok (word.reverse, cur)
      else plainWord flow fuel (c :: word) cur.advance

/-- A plain scalar: its text, whether it ends with a line break behind it, and the cursor. `parts`
is what was read, the last first, and `gap` what stands after it; `fuel` is more than the number of
characters left. -/
def plainScalar (flow : Bool) (indent : Int) :
    (fuel : Nat) → (parts : List (List Char)) → Gap → Cursor →
      Except Fault (String × Bool × Cursor)
  | 0, parts, gap, cur => .ok (String.ofList (joinParts parts), gap.broken, cur)
  | fuel + 1, parts, gap, cur =>
    if cur.atDocumentMark || cur.rest.head? == some '#' then
      .ok (String.ofList (joinParts parts), gap.broken, cur)
    else do
      let (word, cur) ← plainWord flow (fuel + 1) [] cur
      let parts := if word.isEmpty then parts else word :: gap.folded :: parts
      let gap := if word.isEmpty then gap else .none
      if cur.rest.head?.any fun c => isBlank c || isBreak c then do
        let (gap, cur) ← gap.read (indent + 1) (fuel + 1) cur
        if !flow && decide ((cur.column : Int) < indent + 1) then
          .ok (String.ofList (joinParts parts), gap.broken, cur)
        else plainScalar flow indent fuel parts gap cur
      else .ok (String.ofList (joinParts parts), gap.broken, cur)

/-! ## Block scalars -/

/-- What happens to the line breaks at the end of a block scalar. -/
inductive Chomping where
  | strip
  | clip
  | keep
  deriving DecidableEq, Repr

/-- The indicators after the `|` or `>` of a block scalar: what happens to its last line breaks, and
how much deeper than its parent it is indented. -/
def blockHeader (cur : Cursor) : Except Fault (Chomping × Option Nat × Cursor) :=
  let chomp (c : Char) : Option Chomping :=
    if c = '+' then some .keep else if c = '-' then some .strip else none
  let digit (c : Char) : Option Nat :=
    if Decimal.isDigit c then some (Decimal.digitValue c) else none
  match cur.rest with
  | a :: rest =>
    match chomp a, digit a with
    | some chomping, _ =>
      match rest.head?.bind digit with
      | some 0 => .error (cur.fault "found an indentation indicator equal to 0")
      | some n => .ok (chomping, some n, cur.advanceBy 2)
      | none => .ok (chomping, none, cur.advance)
    | none, some 0 => .error (cur.fault "found an indentation indicator equal to 0")
    | none, some n =>
      match rest.head?.bind chomp with
      | some chomping => .ok (chomping, some n, cur.advanceBy 2)
      | none => .ok (.clip, some n, cur.advance)
    | none, none => .ok (.clip, none, cur)
  | [] => .ok (.clip, none, cur)

/-- Skips the blank lines and the indentation before a line of a block scalar. Gives the line breaks
and the greatest column that was reached; `indent` is zero while it is not known. -/
def blockBreaks (indent : Int) :
    Nat → Nat → List Char → Cursor → Except Fault (List Char × Nat × Cursor)
  | 0, deepest, breaks, cur => .ok (breaks, deepest, cur)
  | fuel + 1, deepest, breaks, cur =>
    let inside : Bool := decide (indent = 0 ∨ (cur.column : Int) < indent)
    match cur.rest with
    | [] => .ok (breaks, max deepest cur.column, cur)
    | c :: _ =>
      if inside && c == ' ' then blockBreaks indent fuel deepest breaks cur.advance
      else if inside && c == '\t' then
        .error (cur.fault "found a tab character where an indentation space is expected")
      else if isBreak c then
        let (text, next) := cur.takeBreak
        blockBreaks indent fuel (max deepest cur.column) (breaks ++ text) next
      else .ok (breaks, max deepest cur.column, cur)

/-- The lines of a block scalar with a known indentation. `parts` was read already, the last first,
`lead` is the line break after it and `breaks` are the blank lines after that; `blankLead` tells
whether the last line began with a blank. `fuel` is more than the number of characters left. -/
def blockLines (literal : Bool) (indent : Int) :
    (fuel : Nat) → (parts : List (List Char)) → (lead breaks : List Char) → (blankLead : Bool) →
      Cursor → Except Fault (List Char × List Char × List Char × Cursor)
  | 0, parts, lead, breaks, _, cur => .ok (joinParts parts, lead, breaks, cur)
  | fuel + 1, parts, lead, breaks, blankLead, cur =>
    if (cur.column : Int) = indent ∧ cur.rest ≠ [] then do
      let blank := cur.rest.head?.any isBlank
      let folded := !literal && lead.head? == some '\n' && !blankLead && !blank
      let gap := (if folded then (if breaks.isEmpty then [' '] else []) else lead) ++ breaks
      let line := cur.rest.takeWhile (!isBreak ·)
      let (lead, cur) := (cur.advanceBy line.length).takeBreak
      let (breaks, _, cur) ← blockBreaks indent (fuel + 1) 0 [] cur
      blockLines literal indent fuel (line :: gap :: parts) lead breaks blank cur
    else .ok (joinParts parts, lead, breaks, cur)

/-- A block scalar after its `|` or `>`, below a block of the given indentation. -/
def blockScalar (literal : Bool) (parent : Int) (cur : Cursor) :
    Except Fault (String × Cursor) := do
  let (chomping, increment, cur) ← blockHeader cur
  let cur := cur.skipWhile isBlank
  let cur := if cur.rest.head? = some '#' then cur.skipWhile (!isBreak ·) else cur
  if !breakOrEnd cur.rest then
    .error (cur.fault "did not find expected comment or line break")
  else do
    let cur := cur.takeBreak.2
    let known : Int :=
      match increment with
      | some n => if 0 ≤ parent then parent + n else n
      | none => 0
    let (breaks, deepest, cur) ← blockBreaks known (cur.rest.length + 1) 0 [] cur
    let indent := if known = 0 then max (max (deepest : Int) (parent + 1)) 1 else known
    let (text, lead, breaks, cur) ←
      blockLines literal indent (cur.rest.length + 1) [] [] breaks false cur
    let ending :=
      match chomping with
      | .strip => []
      | .clip => lead
      | .keep => lead ++ breaks
    .ok (String.ofList (text ++ ending), cur)

end Assay.Yaml
