import Assay.Yaml.Token

/-!
# Nodes of YAML

A document is a tree of scalars, sequences and mappings. A node may take a numbered slot, and an
alias stands for the node in a slot; since that may be any node of the document, also one around the
alias, aliases are nodes of their own.
-/

namespace Assay.Yaml

/-- A node of a document. Tags are kept as they are resolved by their handles. -/
inductive Node where
  | scalar (style : ScalarStyle) (tag : Option String) (text : String)
  | sequence (tag : Option String) (items : List Node)
  | mapping (tag : Option String) (entries : List (Node × Node))
  | alias (slot : Nat)
  deriving Repr, Inhabited

/-- Why a text is no document, or not one of the wanted form. -/
abbrev Problem := String

namespace Node

/-- The node where nothing is written. -/
def blank : Node := .scalar .plain none ""

mutual

/-- Whether a node and all nodes below it satisfy a test. -/
def all (test : Node → Bool) : Node → Bool
  | .sequence tag items => test (.sequence tag items) && allItems test items
  | .mapping tag entries => test (.mapping tag entries) && allEntries test entries
  | node => test node

/-- Whether some nodes and all nodes below them satisfy a test. -/
def allItems (test : Node → Bool) : List Node → Bool
  | [] => true
  | item :: rest => all test item && allItems test rest

/-- Whether the nodes of some entries and all nodes below them satisfy a test. -/
def allEntries (test : Node → Bool) : List (Node × Node) → Bool
  | [] => true
  | (key, value) :: rest => all test key && all test value && allEntries test rest

end

mutual

/-- The size of a node: scalars and aliases count once, collections at their start and at their
end. -/
def size : Node → Nat
  | .sequence _ items => itemsSize items + 2
  | .mapping _ entries => entriesSize entries + 2
  | _ => 1

/-- The size of some nodes together. -/
def itemsSize : List Node → Nat
  | [] => 0
  | item :: rest => size item + itemsSize rest

/-- The size of the nodes of some entries together. -/
def entriesSize : List (Node × Node) → Nat
  | [] => 0
  | (key, value) :: rest => size key + size value + entriesSize rest

end

end Node

end Assay.Yaml
