import Assay.Yaml.Scalar

/-!
# Tokens of YAML

A text as a list of tokens in which the structure that indentation expresses is explicit: blocks
have a start and an end, and keys of mappings are marked. Whether something is a key shows only at
the colon after it, so the places where a key may have begun are remembered, and the mark of a key
is put in afterwards. Such a key stands on one line and has at most 1024 bytes.
-/

namespace Assay.Yaml

/-- A token. -/
inductive Token where
  | version (major minor : Nat)
  | tagHandle (handle base : String)
  | documentStart
  | documentEnd
  | blockSequence
  | blockMapping
  | blockEnd
  | flowSequence
  | flowSequenceEnd
  | flowMapping
  | flowMappingEnd
  | entry
  | comma
  | key
  | value
  | alias (name : String)
  | anchor (name : String)
  | tag (handle suffix : String)
  | scalar (style : ScalarStyle) (text : String)
  deriving DecidableEq, Repr

/-- A place where a key may have begun. -/
structure KeyPlace where
  /-- Whether nothing but a key can stand there. -/
  required : Bool
  /-- The number of tokens before it. -/
  position : Nat
  line : Nat
  column : Nat
  offset : Nat

/-- A text that is being divided into tokens. -/
structure Lexer where
  cursor : Cursor
  tokens : Array Token
  /-- The indentation of the innermost block, which is `-1` outside of all blocks. -/
  indent : Int
  /-- The indentations of the blocks around it, the innermost first. -/
  outer : List Int
  /-- Whether a key may begin at the cursor. -/
  keyAllowed : Bool
  /-- Where a key may have begun outside of flow collections or in the innermost one. -/
  keyPlace : Option KeyPlace
  /-- The same for the flow collections around it, the innermost first. -/
  outerKeys : List (Option KeyPlace)

namespace Lexer

/-- The lexer at the beginning of a text. -/
def start (text : List Char) : Lexer :=
  ⟨.start text, #[], -1, [], true, none, []⟩

/-- Whether the cursor stands in a flow collection. -/
def inFlow (lx : Lexer) : Bool := !lx.outerKeys.isEmpty

/-- Adds a token. -/
def push (lx : Lexer) (token : Token) : Lexer :=
  { lx with tokens := lx.tokens.push token }

/-- Moves past some characters of the line. -/
def advanceBy (lx : Lexer) (count : Nat) : Lexer :=
  { lx with cursor := lx.cursor.advanceBy count }

/-! ## Blocks -/

/-- Closes the blocks that are indented deeper than a column; there are at most `fuel` of them. -/
def closeBlocks (column : Int) : Nat → Lexer → Lexer
  | 0, lx => lx
  | fuel + 1, lx =>
    if !lx.inFlow && decide (column < lx.indent) then
      closeBlocks column fuel
        { lx.push .blockEnd with indent := lx.outer.head?.getD (-1), outer := lx.outer.tail }
    else lx

/-- Closes the blocks that are indented deeper than a column. -/
def unroll (lx : Lexer) (column : Int) : Lexer :=
  lx.closeBlocks column (lx.outer.length + 1)

/-- Opens a block at a column that is deeper than the innermost block. The token that opens it is
put before the token at `position`. -/
def openBlock (lx : Lexer) (column position : Nat) (token : Token) : Lexer :=
  if !lx.inFlow && decide (lx.indent < (column : Int)) then
    { lx with
      tokens := lx.tokens.insertIdxIfInBounds position token
      indent := column
      outer := lx.indent :: lx.outer }
  else lx

/-! ## Keys -/

/-- Forgets the place where a key may have begun. -/
def dropKey (lx : Lexer) : Except Fault Lexer :=
  match lx.keyPlace with
  | some ⟨true, _, line, column, _⟩ => .error ⟨"could not find expected ':'", line, column⟩
  | _ => .ok { lx with keyPlace := none }

/-- Whether a place is on an earlier line, or too far away, to be the beginning of a key. -/
def isStale (cur : Cursor) (place : KeyPlace) : Bool :=
  decide (place.line < cur.line ∨ place.offset + 1024 < cur.offset)

/-- Forgets the places that are no longer beginnings of keys. -/
def dropStale (lx : Lexer) : Except Fault Lexer := do
  let fresh (place : Option KeyPlace) : Except Fault (Option KeyPlace) :=
    match place with
    | none => .ok none
    | some place =>
      if isStale lx.cursor place then
        if place.required then .error ⟨"could not find expected ':'", place.line, place.column⟩
        else .ok none
      else .ok (some place)
  let keyPlace ← fresh lx.keyPlace
  let outerKeys ← lx.outerKeys.mapM fresh
  .ok { lx with keyPlace, outerKeys }

/-- Remembers the cursor as a place where a key may begin. -/
def saveKey (lx : Lexer) : Except Fault Lexer :=
  if lx.keyAllowed then do
    let cleared ← lx.dropKey
    let cur := lx.cursor
    let required := !lx.inFlow && decide (lx.indent = (cur.column : Int))
    .ok { cleared with
      keyPlace := some ⟨required, lx.tokens.size, cur.line, cur.column, cur.offset⟩ }
  else .ok lx

/-! ## Between tokens -/

/-- Skips blanks, comments and line breaks, and the byte order marks at the beginnings of lines. A
tab is no indentation. -/
def skipToToken : Nat → Lexer → Lexer
  | 0, lx => lx
  | fuel + 1, lx =>
    let cur := lx.cursor.skipByteOrderMark.skipWhile fun c =>
      c == ' ' || ((lx.inFlow || !lx.keyAllowed) && c == '\t')
    let cur := if cur.rest.head? = some '#' then cur.skipWhile (!isBreak ·) else cur
    if cur.rest.head?.any isBreak then
      skipToToken fuel
        { lx with cursor := cur.takeBreak.2, keyAllowed := lx.keyAllowed || !lx.inFlow }
    else { lx with cursor := cur }

/-! ## Single tokens -/

/-- A mark between documents. -/
def documentMark (lx : Lexer) (token : Token) : Except Fault Lexer := do
  let lx ← (lx.unroll (-1)).dropKey
  .ok ({ lx with keyAllowed := false }.push token |>.advanceBy 3)

/-- The opening bracket of a flow collection. -/
def flowStart (lx : Lexer) (token : Token) : Except Fault Lexer := do
  let lx ← lx.saveKey
  .ok ({ lx with keyAllowed := true, keyPlace := none, outerKeys := lx.keyPlace :: lx.outerKeys }
    |>.push token |>.advanceBy 1)

/-- The closing bracket of a flow collection. -/
def flowEnd (lx : Lexer) (token : Token) : Except Fault Lexer := do
  let lx ← lx.dropKey
  let lx :=
    match lx.outerKeys with
    | place :: outer => { lx with keyPlace := place, outerKeys := outer }
    | [] => lx
  .ok ({ lx with keyAllowed := false }.push token |>.advanceBy 1)

/-- A comma between the items of a flow collection. -/
def flowComma (lx : Lexer) : Except Fault Lexer := do
  let lx ← lx.dropKey
  .ok ({ lx with keyAllowed := true }.push .comma |>.advanceBy 1)

/-- The dash of a block sequence. -/
def blockEntry (lx : Lexer) : Except Fault Lexer :=
  if !lx.inFlow && !lx.keyAllowed then
    .error (lx.cursor.fault "block sequence entries are not allowed in this context")
  else do
    let lx ← (lx.openBlock lx.cursor.column lx.tokens.size .blockSequence).dropKey
    .ok ({ lx with keyAllowed := true }.push .entry |>.advanceBy 1)

/-- The question mark of a key. -/
def explicitKey (lx : Lexer) : Except Fault Lexer :=
  if !lx.inFlow && !lx.keyAllowed then
    .error (lx.cursor.fault "mapping keys are not allowed in this context")
  else do
    let lx ← (lx.openBlock lx.cursor.column lx.tokens.size .blockMapping).dropKey
    .ok ({ lx with keyAllowed := !lx.inFlow }.push .key |>.advanceBy 1)

/-- The colon of a value. -/
def valueMark (lx : Lexer) : Except Fault Lexer :=
  match lx.keyPlace with
  | some place =>
    let marked := { lx with
      tokens := lx.tokens.insertIdxIfInBounds place.position .key
      keyPlace := none
      keyAllowed := false }
    .ok ((marked.openBlock place.column place.position .blockMapping).push .value |>.advanceBy 1)
  | none =>
    if !lx.inFlow && !lx.keyAllowed then
      .error (lx.cursor.fault "mapping values are not allowed in this context")
    else
      let lx := lx.openBlock lx.cursor.column lx.tokens.size .blockMapping
      .ok ({ lx with keyAllowed := !lx.inFlow }.push .value |>.advanceBy 1)

/-- An anchor or an alias. -/
def named (lx : Lexer) (token : String → Token) : Except Fault Lexer := do
  let lx ← lx.saveKey
  let cur := lx.cursor.advance
  let name := cur.rest.takeWhile isWordChar
  let after := cur.advanceBy name.length
  let ends := blankOrEnd after.rest ||
    after.rest.head?.any (['?', ':', ',', ']', '\x7d', '%', '@', backquote].contains ·)
  if name.isEmpty || !ends then
    .error (after.fault "did not find expected alphabetic or numeric character")
  else .ok ({ lx with keyAllowed := false, cursor := after }.push (token (String.ofList name)))

/-- Characters of a tag. -/
def isTagChar (verbatim : Bool) (c : Char) : Bool :=
  isWordChar c || (";/?:@&=+$.%!~*'()".toList.contains c) ||
    (verbatim && [',', '[', ']'].contains c)

/-- The number of bytes of the character that a byte begins. -/
def byteCount? (byte : Nat) : Option Nat :=
  if byte < 0x80 then some 1
  else if 0xC0 ≤ byte ∧ byte < 0xE0 then some 2
  else if 0xE0 ≤ byte ∧ byte < 0xF0 then some 3
  else if 0xF0 ≤ byte ∧ byte < 0xF8 then some 4
  else none

/-- The bytes of a tag, each as the character of its number: its characters and the bytes that its
escapes stand for. The escapes of one character stand together; `missing` more of them have to
follow. -/
def tagBytes : (missing : Nat) → List Char → Option (List Char)
  | missing, '%' :: a :: b :: rest => do
    let byte := 16 * (← Json.hexValue a) + (← Json.hexValue b)
    let missing ←
      if missing = 0 then (byteCount? byte).map (· - 1)
      else if 0x80 ≤ byte ∧ byte < 0xC0 then some (missing - 1)
      else none
    (tagBytes missing rest).map (Char.ofNat byte :: ·)
  | 0, c :: rest => if c = '%' then none else (tagBytes 0 rest).map (c :: ·)
  | 0, [] => some []
  | _ + 1, _ => none

/-- The text of a part of a tag, which ends at a null byte. -/
def tagText (cur : Cursor) (cs : List Char) : Except Fault String :=
  match tagBytes 0 cs with
  | some bytes => .ok (String.ofList (bytes.takeWhile (· ≠ '\x00')))
  | none => .error (cur.fault "did not find URI escaped octet")

/-- The handle that a tag starts with: marks of exclamation around a word, or a single one. -/
def tagHandle (cs : List Char) : List Char :=
  match cs with
  | '!' :: rest =>
    let word := rest.takeWhile isWordChar
    if (rest.drop word.length).head? = some '!' then '!' :: (word ++ ['!']) else ['!']
  | _ => []

/-- A tag. A single mark of exclamation is a tag of its own, whatever its handle means. -/
def tagToken (lx : Lexer) : Except Fault Lexer := do
  let lx ← lx.saveKey
  let cur := lx.cursor
  let (token, cur) ←
    match cur.rest with
    | '!' :: '<' :: rest =>
      let uri := rest.takeWhile (isTagChar true)
      let after := cur.advanceBy (uri.length + 2)
      if uri.isEmpty || after.rest.head? ≠ some '>' then
        .error (after.fault "did not find the expected '>'")
      else do .ok (Token.tag "" (← tagText cur uri), after.advance)
    | cs =>
      let handle := tagHandle cs
      let after := cur.advanceBy handle.length
      let suffix := after.rest.takeWhile (isTagChar false)
      if 1 < handle.length ∧ suffix.isEmpty then
        .error (after.fault "did not find expected tag URI")
      else do
        let text ← tagText after suffix
        let token :=
          if handle.length = 1 ∧ text = "" then Token.tag "" "!"
          else Token.tag (String.ofList handle) text
        .ok (token, after.advanceBy suffix.length)
  if blankOrEnd cur.rest || (lx.inFlow && cur.rest.head? = some ',') then
    .ok ({ lx with keyAllowed := false, cursor := cur }.push token)
  else .error (cur.fault "did not find expected whitespace or line break")

/-- A block scalar. -/
def blockScalarToken (lx : Lexer) (literal : Bool) : Except Fault Lexer := do
  let lx ← lx.dropKey
  let (text, cur) ← blockScalar literal lx.indent lx.cursor.advance
  let style : ScalarStyle := if literal then .literal else .folded
  .ok ({ lx with keyAllowed := true, cursor := cur }.push (.scalar style text))

/-- A quoted scalar. -/
def quotedToken (lx : Lexer) (double : Bool) : Except Fault Lexer := do
  let lx ← lx.saveKey
  let (text, cur) ← quotedScalar double (lx.cursor.rest.length + 1) [] lx.cursor.advance
  .ok ({ lx with keyAllowed := false, cursor := cur }.push (.scalar .quoted text))

/-- A plain scalar. -/
def plainToken (lx : Lexer) : Except Fault Lexer := do
  let lx ← lx.saveKey
  let (text, broken, cur) ←
    plainScalar lx.inFlow lx.indent (lx.cursor.rest.length + 1) [] .none lx.cursor
  .ok ({ lx with keyAllowed := broken, cursor := cur }.push (.scalar .plain text))

/-- The digits of a number in a version. -/
def versionNumber (cur : Cursor) : Except Fault (Nat × Cursor) :=
  let ds := cur.rest.takeWhile Decimal.isDigit
  if ds.isEmpty ∨ 9 < ds.length then .error (cur.fault "did not find expected version number")
  else .ok (Decimal.ofDigits ds, cur.advanceBy ds.length)

/-- The version of a directive. -/
def versionToken (cur : Cursor) : Except Fault (Token × Cursor) := do
  let (major, cur) ← versionNumber cur
  if cur.rest.head? ≠ some '.' then
    .error (cur.fault "did not find expected digit or '.' character")
  else do
    let (minor, cur) ← versionNumber cur.advance
    .ok (.version major minor, cur)

/-- The handle of a directive and what it stands for. -/
def handleToken (cur : Cursor) : Except Fault (Token × Cursor) :=
  let handle := tagHandle cur.rest
  let cur := cur.advanceBy handle.length
  if handle.isEmpty ∨ !cur.rest.head?.any isBlank then
    .error (cur.fault "did not find expected '!'")
  else
    let cur := cur.skipWhile isBlank
    let base := cur.rest.takeWhile (isTagChar true)
    let after := cur.advanceBy base.length
    if base.isEmpty || !blankOrEnd after.rest then
      .error (after.fault "did not find expected whitespace or line break")
    else do .ok (.tagHandle (String.ofList handle) (← tagText cur base), after)

/-- A directive before a document. -/
def directive (lx : Lexer) : Except Fault Lexer := do
  let lx ← (lx.unroll (-1)).dropKey
  let cur := lx.cursor.advance
  let name := cur.rest.takeWhile isWordChar
  let cur := cur.advanceBy name.length
  if !blankOrEnd cur.rest then
    .error (cur.fault "found unexpected non-alphabetical character")
  else do
    let cur := cur.skipWhile isBlank
    let (token, cur) ←
      if name = ['Y', 'A', 'M', 'L'] then versionToken cur
      else if name = ['T', 'A', 'G'] then handleToken cur
      else .error (cur.fault "found unknown directive name")
    let cur := cur.skipWhile isBlank
    let cur := if cur.rest.head? = some '#' then cur.skipWhile (!isBreak ·) else cur
    if breakOrEnd cur.rest then
      .ok ({ lx with keyAllowed := false, cursor := cur }.push token)
    else .error (cur.fault "did not find expected comment or line break")

/-- Whether a plain scalar may begin with a text. -/
def startsPlain (inFlow : Bool) (cs : List Char) : Bool :=
  match cs with
  | [] => false
  | c :: rest =>
    if c = '-' then !(rest.head?.any isBlank) && !blankOrEnd rest
    else if c = '?' ∨ c = ':' then !inFlow && !blankOrEnd rest
    else !(isBlank c || isBreak c) &&
      !([',', '[', ']', '\x7b', '\x7d', '#', '&', '*', '!', '|', '>', '\'', '"', '%', '@',
        backquote].contains c)

/-- The next token, with the tokens that indentation adds. -/
def next (lx : Lexer) : Except Fault Lexer :=
  let cur := lx.cursor
  let flow := lx.inFlow
  match cur.rest with
  | [] => .ok lx
  | c :: rest =>
    if cur.column = 0 ∧ c = '%' then lx.directive
    else if cur.atMark '-' then lx.documentMark .documentStart
    else if cur.atMark '.' then lx.documentMark .documentEnd
    else if c = '[' then lx.flowStart .flowSequence
    else if c = '\x7b' then lx.flowStart .flowMapping
    else if c = ']' then lx.flowEnd .flowSequenceEnd
    else if c = '\x7d' then lx.flowEnd .flowMappingEnd
    else if c = ',' then lx.flowComma
    else if c = '-' ∧ blankOrEnd rest then lx.blockEntry
    else if c = '?' ∧ (flow ∨ blankOrEnd rest) then lx.explicitKey
    else if c = ':' ∧ (flow ∨ blankOrEnd rest) then lx.valueMark
    else if c = '*' then lx.named .alias
    else if c = '&' then lx.named .anchor
    else if c = '!' then lx.tagToken
    else if c = '|' ∧ !flow then lx.blockScalarToken true
    else if c = '>' ∧ !flow then lx.blockScalarToken false
    else if c = '\'' then lx.quotedToken false
    else if c = '"' then lx.quotedToken true
    else if startsPlain flow cur.rest then lx.plainToken
    else .error (cur.fault "found character that cannot start any token")

/-- Divides the rest of a text into tokens. Every round takes at least one character; `fuel` is more
than the number of characters left. -/
def run : (fuel : Nat) → Lexer → Except Fault (Array Token)
  | 0, lx => .ok lx.tokens
  | fuel + 1, lx => do
    let lx := lx.skipToToken (fuel + 1)
    let lx ← lx.dropStale
    let lx := lx.unroll lx.cursor.column
    if lx.cursor.rest.isEmpty then do
      let lx ← (lx.unroll (-1)).dropKey
      .ok lx.tokens
    else run fuel (← lx.next)

end Lexer

/-- The tokens of a text. -/
def tokens (text : List Char) : Except Fault (List Token) := do
  if text.all isAllowed then
    let found ← (Lexer.start text).run (text.length + 1)
    .ok found.toList
  else .error ⟨"control characters are not allowed", 0, 0⟩

end Assay.Yaml
