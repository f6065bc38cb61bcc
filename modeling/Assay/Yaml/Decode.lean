import Assay.Text.Utf8
import Assay.Yaml.Document
import Assay.Yaml.Plain

/-!
# Values in YAML documents

What a node stands for where a text, a number, a list or a record is wanted. A plain scalar that is
wanted as a text is that text, whatever it would be otherwise. Aliases are followed where their
nodes are wanted, and only there; since a short document can name a huge tree by them, the number of
times that aliases may be followed is bounded by the size of the document.
-/

namespace Assay.Yaml

/-! ## Readings -/

/-- A reading of a document. It knows the document and how many times aliases may still be
followed. -/
abbrev Reading (α : Type) := ReaderT Document (StateT Nat (Except Problem)) α

/-- What a node stands for. -/
abbrev Decoder (α : Type) := Node → Reading α

/-- How many times the aliases of a document may be followed. -/
def Document.allowance (d : Document) : Nat :=
  100 * d.root.size

/-- What the outermost node of a document stands for. -/
def Document.decode (d : Document) (decoder : Decoder α) : Except Problem α :=
  ((decoder d.root).run d).run' d.allowance

/-- The levels of collections that may stand inside of each other in kept values. -/
def maxDepth : Nat := 128

/-! ## Tags -/

/-- The prefix of the tags that YAML defines itself. -/
def coreTag (name : String) : String := "tag:yaml.org,2002:" ++ name

/-- The tag of a node that names a variant, without its mark. A tag that is no text names none. -/
def variantTag? (tag : Option String) : Option String :=
  match tag.map String.toList with
  | some ('!' :: name) => Text.Utf8.decode (name.map fun c => c.toNat.toUInt8)
  | _ => none

/-- Whether a tag starts with a mark of exclamation. -/
def isLocalTag (tag : Option String) : Bool :=
  (tag.map String.toList).any fun name => name.head? == some '!'

namespace Node

/-- The meaning of a scalar, as far as its tag admits one. -/
def meaning? : Node → Option Meaning
  | .scalar style tag text =>
    if (variantTag? tag).isSome then none
    else if tag = some (coreTag "null") then if isNullWord text then some .null else none
    else if tag = some (coreTag "bool") then (truthValue? text).map .bool
    else if tag = some (coreTag "int") then integer? text
    else if tag = some (coreTag "float") then if isFloat text then some .number else none
    else if style = .plain ∧ (tag = none ∨ isLocalTag tag) then some (plainMeaning text)
    else some (.text text)
  | _ => none

/-! ## Decoders -/

/-- The node that a node stands for. -/
def follow : Decoder Node
  | .alias slot => do
    let left ← get
    if left = 0 then throw "repetition limit exceeded"
    else
      set (left - 1)
      match (← readThe Document).inSlot? slot with
      | some node => pure node
      | none => throw "unknown anchor"
  | node => pure node

/-- A text. -/
def text : Decoder String := fun node => do
  match ← follow node with
  | .scalar _ _ text => pure text
  | _ => throw "expected a string"

/-- Nothing, or what is wanted. -/
def optional (decode : Decoder α) : Decoder (Option α) := fun node => do
  match ← follow node with
  | .scalar .plain tag text =>
    if tag = some (coreTag "null") then
      if isNullWord text then pure none else throw "expected null"
    else if tag = none ∧ (text = "" ∨ isNullWord text) then pure none
    else some <$> decode (.scalar .plain tag text)
  | node => some <$> decode node

/-- Whether a scalar may write a number: it is plain, or literal with the tag of integers. -/
def mayWriteInteger (style : ScalarStyle) (tag : Option String) : Bool :=
  style == .plain || (style == .literal && tag == some (coreTag "int"))

/-- A natural number below `2 ^ 64`. -/
def natural : Decoder Nat := fun node => do
  match ← follow node with
  | .scalar style tag text =>
    if mayWriteInteger style tag then
      match natural? text with
      | some n => if n < UInt64.size then pure n else throw "number too large"
      | none => throw "expected a natural number"
    else throw "expected a natural number"
  | _ => throw "expected a natural number"

/-- A list; nothing at all is the empty list. -/
def list (decode : Decoder α) : Decoder (List α) := fun node => do
  match ← follow node with
  | .sequence _ items => items.mapM decode
  | .scalar .plain _ "" => pure []
  | _ => throw "expected a sequence"

/-- The entries of a record by their names; nothing at all is a record without entries. -/
def entries : Decoder (List (String × Node)) := fun node => do
  match ← follow node with
  | .mapping _ pairs => pairs.mapM fun (key, value) => return (← key.text, value)
  | .scalar .plain _ "" => pure []
  | _ => throw "expected a mapping"

/-- A node with all that its aliases stand for. At most `levels` collections may stand inside of
each other in it, so that an alias inside of its own node is refused. -/
def expand : (levels : Nat) → Decoder Node
  | levels, node => do
    match ← follow node, levels with
    | .sequence tag items, levels + 1 => return .sequence tag (← items.mapM (expand levels))
    | .mapping tag entries, levels + 1 =>
      return .mapping tag (← entries.mapM fun (key, value) =>
        return (← expand levels key, ← expand levels value))
    | .scalar style tag text, _ => pure (.scalar style tag text)
    | _, _ => throw "recursion limit exceeded"

end Node

/-! ## Records -/

section

variable {m : Type → Type} [Monad m] [MonadExcept Problem m]

/-- The entry of a record with a name, which must not be there twice. -/
def entry? (entries : List (String × Node)) (name : String) : m (Option Node) :=
  match entries.filter (·.1 == name) with
  | [] => pure none
  | [(_, node)] => pure (some node)
  | _ => throw ("duplicate field `" ++ name ++ "`")

/-- The value of an entry that must be there. -/
def required (entries : List (String × Node)) (name : String) (decode : Node → m α) : m α := do
  match ← entry? entries name with
  | some node => decode node
  | none => throw ("missing field `" ++ name ++ "`")

/-- The value of an entry, or another one if it is not there. -/
def withDefault (entries : List (String × Node)) (name : String) (decode : Node → m α)
    (otherwise : α) : m α := do
  match ← entry? entries name with
  | some node => decode node
  | none => pure otherwise

end

/-- What the record of a whole text stands for; a text without a document is a record without
entries. -/
def ofRecord (text : String) (decode : List (String × Node) → Reading α) : Except Problem α := do
  let document ← Document.ofText text.toList
  document.decode fun root => do decode (← root.entries)

end Assay.Yaml
