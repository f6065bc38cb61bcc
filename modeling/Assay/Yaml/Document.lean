import Assay.Yaml.Node

/-!
# Documents of YAML

A document from its tokens. A node with an anchor takes the slot whose number is the count of names
that are in use before it. A name that is used again does not change that count, so the next new
name takes the same slot. An alias stands for the slot of its name at that place, and so for the
node that takes this slot last, which shows only when the document is complete.
-/

namespace Assay.Yaml

/-- A document: its outermost node, and the nodes that took slots, the latest first. -/
structure Document where
  root : Node
  anchored : List (Nat × Node)
  deriving Repr

namespace Document

/-- The node in a slot. -/
def inSlot? (d : Document) (slot : Nat) : Option Node :=
  d.anchored.lookup slot

end Document

namespace Node

/-! ## Anchors -/

/-- The anchors of a document so far. -/
structure Anchors where
  /-- The slot that each name stands for. -/
  slots : List (String × Nat)
  /-- The slots that were taken, each with the number of the anchor that took it, the latest
  first. -/
  taken : List (Nat × Nat)
  /-- The nodes that are complete, by the numbers of their anchors. -/
  nodes : List (Nat × Node)
  /-- The number of anchors. -/
  count : Nat

/-- No anchors. -/
def Anchors.empty : Anchors := ⟨[], [], [], 0⟩

/-- Attaches an anchor to a node that is about to be read. -/
def Anchors.open (a : Anchors) (name : Option String) : Anchors :=
  match name with
  | some name =>
    let slot := a.slots.length
    ⟨(name, slot) :: a.slots.filter (·.1 != name), (slot, a.count) :: a.taken, a.nodes, a.count + 1⟩
  | none => a

/-- Completes the node of the anchor with the number `id`. -/
def Anchors.close (a : Anchors) (name : Option String) (id : Nat) (node : Node) : Anchors :=
  if name.isSome then { a with nodes := (id, node) :: a.nodes } else a

/-- The nodes that took slots, the latest first. -/
def Anchors.anchored (a : Anchors) : List (Nat × Node) :=
  a.taken.filterMap fun (slot, id) => (a.nodes.lookup id).map (slot, ·)

/-! ## Reading -/

/-- A part of a document, the anchors after it, and the tokens after it. -/
abbrev Part (α : Type) := α × Anchors × List Token

/-- The handles of tags that every document knows. -/
def defaultHandles : List (String × String) :=
  [("!", "!"), ("!!", "tag:yaml.org,2002:"), ("", "")]

/-- The anchor and the tag before a node, in either order. -/
def properties (handles : List (String × String)) (tokens : List Token) :
    Except Problem (Option String × Option String × List Token) :=
  let resolve (handle suffix : String) : Except Problem (Option String) :=
    match handles.lookup handle with
    | some base => .ok (some (base ++ suffix))
    | none => .error "found undefined tag handle"
  match tokens with
  | .anchor a :: .tag h s :: rest => do .ok (some a, ← resolve h s, rest)
  | .tag h s :: .anchor a :: rest => do .ok (some a, ← resolve h s, rest)
  | .anchor a :: rest => .ok (some a, none, rest)
  | .tag h s :: rest => do .ok (none, ← resolve h s, rest)
  | rest => .ok (none, none, rest)

/-- Whether the next token is one of some tokens, or there is none. -/
def nextIn (tokens : List Token) (stops : List Token) : Bool :=
  match tokens.head? with
  | some token => stops.contains token
  | none => true

mutual

/-- Reads a node. `block` tells whether a block may stand there, `dashes` whether the dashes of a
sequence may stand there without an indentation of their own. At most `fuel` levels are read. -/
def read (handles : List (String × String)) :
    Nat → Bool → Bool → Anchors → List Token → Except Problem (Part Node)
  | 0, _, _, _, _ => .error "document is nested too deep"
  | fuel + 1, block, dashes, anchors, tokens =>
    match tokens with
    | .alias name :: rest =>
      match anchors.slots.lookup name with
      | some slot => .ok (.alias slot, anchors, rest)
      | none => .error "found undefined alias"
    | _ => do
      let (name, tag, rest) ← properties handles tokens
      let id := anchors.count
      let opened := anchors.open name
      let (node, anchors, rest) ←
        match rest with
        | .scalar style text :: rest => .ok (Node.scalar style tag text, opened, rest)
        | .flowSequence :: rest => do
          let (items, anchors, rest) ← readFlowItems handles fuel true opened rest
          .ok (Node.sequence tag items, anchors, rest)
        | .flowMapping :: rest => do
          let (entries, anchors, rest) ← readFlowEntries handles fuel true opened rest
          .ok (Node.mapping tag entries, anchors, rest)
        | rest =>
          if dashes && rest.head? == some .entry then do
            let (items, anchors, rest) ← readDashes handles fuel opened rest
            .ok (Node.sequence tag items, anchors, rest)
          else if block && rest.head? == some .blockSequence then do
            let (items, anchors, rest) ← readBlockItems handles fuel opened (rest.drop 1)
            .ok (Node.sequence tag items, anchors, rest)
          else if block && rest.head? == some .blockMapping then do
            let (entries, anchors, rest) ← readBlockEntries handles fuel opened (rest.drop 1)
            .ok (Node.mapping tag entries, anchors, rest)
          else if name.isSome || tag.isSome then .ok (Node.scalar .plain tag "", opened, rest)
          else .error "did not find expected node content"
      .ok (node, anchors.close name id node, rest)

/-- Reads a node unless one of some tokens comes next, which leaves it blank. -/
def readUnless (handles : List (String × String)) :
    Nat → Bool → Bool → List Token → Anchors → List Token → Except Problem (Part Node)
  | 0, _, _, _, _, _ => .error "document is nested too deep"
  | fuel + 1, block, dashes, stops, anchors, tokens =>
    if nextIn tokens stops then .ok (blank, anchors, tokens)
    else read handles fuel block dashes anchors tokens

/-- The items of a block sequence up to its end. -/
def readBlockItems (handles : List (String × String)) :
    Nat → Anchors → List Token → Except Problem (Part (List Node))
  | 0, _, _ => .error "document is nested too deep"
  | fuel + 1, anchors, tokens =>
    match tokens with
    | .blockEnd :: rest => .ok ([], anchors, rest)
    | .entry :: rest => do
      let (item, anchors, rest) ←
        readUnless handles fuel true false [.entry, .blockEnd] anchors rest
      let (items, anchors, rest) ← readBlockItems handles fuel anchors rest
      .ok (item :: items, anchors, rest)
    | _ => .error "did not find expected '-' indicator"

/-- The items of a sequence whose dashes are indented as the mapping around it. -/
def readDashes (handles : List (String × String)) :
    Nat → Anchors → List Token → Except Problem (Part (List Node))
  | 0, _, _ => .error "document is nested too deep"
  | fuel + 1, anchors, tokens =>
    match tokens with
    | .entry :: rest => do
      let (item, anchors, rest) ←
        readUnless handles fuel true false [.entry, .key, .value, .blockEnd] anchors rest
      let (items, anchors, rest) ← readDashes handles fuel anchors rest
      .ok (item :: items, anchors, rest)
    | rest => .ok ([], anchors, rest)

/-- The entries of a block mapping up to its end. -/
def readBlockEntries (handles : List (String × String)) :
    Nat → Anchors → List Token → Except Problem (Part (List (Node × Node)))
  | 0, _, _ => .error "document is nested too deep"
  | fuel + 1, anchors, tokens =>
    match tokens with
    | .blockEnd :: rest => .ok ([], anchors, rest)
    | .key :: rest => do
      let stops := [Token.key, .value, .blockEnd]
      let (key, anchors, rest) ← readUnless handles fuel true true stops anchors rest
      let (value, anchors, rest) ←
        match rest with
        | .value :: rest => readUnless handles fuel true true stops anchors rest
        | rest => .ok (blank, anchors, rest)
      let (entries, anchors, rest) ← readBlockEntries handles fuel anchors rest
      .ok ((key, value) :: entries, anchors, rest)
    | _ => .error "did not find expected key"

/-- The items of a flow sequence up to its bracket; a pair among them is a mapping of one entry. The
mark of a key without content takes the token after it as well. -/
def readFlowItems (handles : List (String × String)) :
    Nat → Bool → Anchors → List Token → Except Problem (Part (List Node))
  | 0, _, _, _ => .error "document is nested too deep"
  | fuel + 1, first, anchors, tokens =>
    match tokens with
    | .flowSequenceEnd :: rest => .ok ([], anchors, rest)
    | tokens => do
      let tokens ←
        match first, tokens with
        | true, tokens => .ok tokens
        | false, .comma :: rest => .ok rest
        | false, _ => .error "did not find expected ',' or ']'"
      match tokens with
      | .flowSequenceEnd :: rest => .ok ([], anchors, rest)
      | .key :: rest => do
        let (key, anchors, rest) ←
          if nextIn rest [.value, .comma, .flowSequenceEnd] then
            .ok (blank, anchors, rest.drop 1)
          else read handles fuel false false anchors rest
        let (value, anchors, rest) ←
          match rest with
          | .value :: rest =>
            readUnless handles fuel false false [.comma, .flowSequenceEnd] anchors rest
          | rest => .ok (blank, anchors, rest)
        let (items, anchors, rest) ← readFlowItems handles fuel false anchors rest
        .ok (.mapping none [(key, value)] :: items, anchors, rest)
      | tokens => do
        let (item, anchors, rest) ← read handles fuel false false anchors tokens
        let (items, anchors, rest) ← readFlowItems handles fuel false anchors rest
        .ok (item :: items, anchors, rest)

/-- The entries of a flow mapping up to its brace. -/
def readFlowEntries (handles : List (String × String)) :
    Nat → Bool → Anchors → List Token → Except Problem (Part (List (Node × Node)))
  | 0, _, _, _ => .error "document is nested too deep"
  | fuel + 1, first, anchors, tokens =>
    match tokens with
    | .flowMappingEnd :: rest => .ok ([], anchors, rest)
    | tokens => do
      let tokens ←
        match first, tokens with
        | true, tokens => .ok tokens
        | false, .comma :: rest => .ok rest
        | false, _ => .error "did not find expected ',' or '\x7d'"
      match tokens with
      | .flowMappingEnd :: rest => .ok ([], anchors, rest)
      | .key :: rest => do
        let (key, anchors, rest) ←
          readUnless handles fuel false false [.value, .comma, .flowMappingEnd] anchors rest
        let (value, anchors, rest) ←
          match rest with
          | .value :: rest =>
            readUnless handles fuel false false [.comma, .flowMappingEnd] anchors rest
          | rest => .ok (blank, anchors, rest)
        let (entries, anchors, rest) ← readFlowEntries handles fuel false anchors rest
        .ok ((key, value) :: entries, anchors, rest)
      | tokens => do
        let (key, anchors, rest) ← read handles fuel false false anchors tokens
        let (entries, anchors, rest) ← readFlowEntries handles fuel false anchors rest
        .ok ((key, blank) :: entries, anchors, rest)

end

/-! ## Documents -/

/-- The directives before a document: whether a version was given, and the handles of tags. -/
def readDirectives : Bool → List (String × String) → List Token →
    Except Problem (List (String × String) × List Token)
  | seen, handles, .version major minor :: rest =>
    if seen then .error "found duplicate %YAML directive"
    else if major = 1 ∧ (minor = 1 ∨ minor = 2) then readDirectives true handles rest
    else .error "found incompatible YAML document"
  | seen, handles, .tagHandle handle base :: rest =>
    if (handles.lookup handle).isSome then .error "found duplicate %TAG directive"
    else readDirectives seen ((handle, base) :: handles) rest
  | _, handles, rest => .ok (handles, rest)

/-- Whether a token is a directive or a mark between documents. -/
def isDocumentToken : Token → Bool
  | .version .. => true
  | .tagHandle .. => true
  | .documentStart => true
  | .documentEnd => true
  | _ => false

end Node

namespace Document

/-- The document of no tokens at all. -/
def empty : Document := ⟨.blank, []⟩

/-- The only document of a list of tokens. -/
def ofTokens (tokens : List Token) : Except Problem Document := do
  if tokens.isEmpty then .ok empty
  else
    let fuel := 2 * tokens.length + 4
    let explicit :=
      tokens.head?.any fun token => Node.isDocumentToken token && token != .documentEnd
    let (handles, rest) ←
      if explicit then do
        let (own, rest) ← Node.readDirectives false [] tokens
        match rest with
        | .documentStart :: rest => .ok (own ++ Node.defaultHandles, rest)
        | _ => .error "did not find expected <document start>"
      else .ok (Node.defaultHandles, tokens)
    let (root, anchors, rest) ←
      if explicit && (rest.isEmpty || rest.head?.any Node.isDocumentToken) then
        .ok (Node.blank, .empty, rest)
      else Node.read handles fuel true false .empty rest
    match rest.dropWhile (· == .documentEnd) with
    | [] => .ok ⟨root, anchors.anchored⟩
    | _ => .error "found more than one document"

/-- The only document of a text. -/
def ofText (text : List Char) : Except Problem Document := do
  let found ← (tokens text).mapError (·.message)
  ofTokens found

end Document

end Assay.Yaml
