import Assay.Files.Tree
import Assay.Files.Wildcard

/-!
# Searching a tree by a pattern

The paths in a tree that a pattern for paths matches, in ascending order. A component without
wildcards is followed as it is written, so it may also be one or two dots; a component with
wildcards matches the names in a directory; two stars match a directory and all directories below
it. A dot at the beginning of a pattern is not kept in the paths that are found.
-/

namespace Assay.Files

namespace Tree

/-- The path of a name in the directory that a search has reached. A search starts at a single dot,
which is left out. -/
def below (path name : String) : String :=
  if Path.components path = [.here] then name else Path.join path name

/-- Everything strictly below a path down to some depth: names and paths. -/
def descend (t : Tree) : Nat → String → List (String × String)
  | 0, _ => []
  | depth + 1, path =>
    match t.resolve path with
    | .error _ => []
    | .ok place =>
      if t.look place = some .directory then
        (t.children place).flatMap fun name =>
          (name, below path name) :: t.descend depth (below path name)
      else []

/-- The directory levels of a tree are no more than its entries. -/
def depthBound (t : Tree) : Nat :=
  t.entries.length + 1

/-- The names in a directory that a pattern matches, with their paths. One and two dots are matched
only by a pattern that begins with a dot. -/
def namesMatching (t : Tree) (pattern : Pattern) (path : String) : List String :=
  let named := (t.descend 1 path).filterMap fun (name, found) =>
    if pattern.matchesName name.toList then some found else none
  let dots :=
    if pattern.head? = some (.literal '.') ∧ t.isDirectory path then
      [".", ".."].filterMap fun dots =>
        if pattern.matchesName dots.toList then some (Path.join path dots) else none
    else []
  named ++ dots

/-- The paths that match the components of a pattern from a path on. When `onlyDirectories`, the
last component matches no file. -/
def expand (t : Tree) (onlyDirectories : Bool) : List Pattern → String → List String
  | [], path => if onlyDirectories && !t.isDirectory path then [] else [path]
  | pattern :: rest, path =>
    match pattern.literalText? with
    | some text =>
      let part := String.ofList text
      let next := below path part
      let open? :=
        if part = "." ∨ part = ".." then t.isDirectory path else (t.stat next).isOk
      if open? then t.expand onlyDirectories rest next else []
    | none =>
      if pattern.isRecursive then
        match rest with
        | [] => (t.descend t.depthBound path).filterMap fun (_, found) =>
            if t.isDirectory found then some found else none
        | following :: after =>
          (t.descend t.depthBound path).flatMap fun (name, found) =>
            if following.matchesName name.toList then t.expand onlyDirectories after found
            else []
      else (t.namesMatching pattern path).flatMap (t.expand onlyDirectories rest)

/-- Leaves one of several recursive components in a row. -/
def collapse : List Pattern → List Pattern
  | [] => []
  | pattern :: rest =>
    match collapse rest with
    | [] => [pattern]
    | following :: after =>
      if pattern.isRecursive && following.isRecursive then following :: after
      else pattern :: following :: after

/-- The components of a pattern for paths; a slash at its end adds none. -/
def patternParts (pattern : List Char) : List (List Char) :=
  let parts := pattern.splitOn '/'
  if parts.getLast? = some [] then parts.dropLast else parts

/-- The paths that a pattern matches, in ascending order. -/
def search (t : Tree) (pattern : String) : Except PatternError (List String) := do
  let chars := pattern.toList
  let _ ← Pattern.parse chars
  let (start, below) := if Path.isAbsolute pattern then ("/", chars.drop 1) else (".", chars)
  let components ← (patternParts below).mapM Pattern.parse
  .ok (Path.sort (t.expand (chars.getLast? == some '/') (collapse components) start))

end Tree

end Assay.Files
