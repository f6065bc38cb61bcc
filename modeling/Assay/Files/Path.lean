import Assay.Sorted

/-!
# Paths

A path is a text whose parts are divided by slashes. Its components leave out what does not change
the place it names: repeated and trailing slashes, and dots except a leading one. Paths are
compared and ordered component by component, so `a/./b` and `a//b` are equal to `a/b`, while
`a/../b` is another path than `b`.
-/

namespace Assay.Files

/-- A component of a path. -/
inductive Component where
  /-- The slash at the beginning. -/
  | root
  /-- The dot at the beginning. -/
  | here
  /-- Two dots: one directory up. -/
  | up
  /-- The name of a file or a directory. -/
  | name (s : String)
  deriving DecidableEq, Repr

/-- Components are ordered by kind, names by their characters. -/
def Component.less : Component → Component → Bool
  | .name a, .name b => decide (a < b)
  | a, b => decide (rank a < rank b)
where
  /-- The place of a kind among the kinds. -/
  rank : Component → Nat
    | .root => 0
    | .here => 1
    | .up => 2
    | .name _ => 3

namespace Path

/-- The parts of a path between its slashes. -/
def parts (path : String) : List String :=
  (path.toList.splitOn '/').map String.ofList

/-- The component of a part that does not begin the path. -/
def componentOf (part : String) : Option Component :=
  if part = "" ∨ part = "." then none
  else if part = ".." then some .up
  else some (.name part)

/-- The components of a path. -/
def components (path : String) : List Component :=
  match parts path with
  | "" :: rest => (if path = "" then [] else [.root]) ++ rest.filterMap componentOf
  | "." :: rest => .here :: rest.filterMap componentOf
  | all => all.filterMap componentOf

/-- Whether a path begins with the components of another one. -/
def startsWith (path base : String) : Bool :=
  (components base).isPrefixOf (components path)

/-- The order of paths, component by component. -/
def less (a b : String) : Bool :=
  go (components a) (components b)
where
  /-- The order of lists of components. -/
  go : List Component → List Component → Bool
    | [], [] => false
    | [], _ :: _ => true
    | _ :: _, [] => false
    | a :: as, b :: bs => a.less b || (a == b && go as bs)

/-- Paths in ascending order. -/
def sort (paths : List String) : List String :=
  sorted less paths

/-- Whether two paths have the same components. -/
def same (a b : String) : Bool :=
  components a == components b

/-- Of neighbours with the same components only the first. -/
def distinct : List String → List String
  | [] => []
  | path :: rest =>
    match distinct rest with
    | [] => [path]
    | other :: kept => if same path other then path :: kept else path :: other :: kept

/-- Whether a path begins at the root. -/
def isAbsolute (path : String) : Bool :=
  path.toList.head? == some '/'

/-- A path below a directory; a path that begins at the root stands for itself. -/
def join (directory path : String) : String :=
  if isAbsolute path ∨ directory = "" then path
  else if directory.toList.getLast? = some '/' then directory ++ path
  else directory ++ "/" ++ path

/-- Removes the parts at the end of a path that name no component of their own. -/
def trimParts : List String → List String
  | [] => []
  | first :: rest =>
    first :: (rest.reverse.dropWhile fun part => part = "" ∨ part = ".").reverse

/-- The path without its last component. -/
def parent (path : String) : String :=
  match trimParts ((trimParts (parts path)).dropLast) with
  | [""] => "/"
  | kept => String.intercalate "/" kept

/-- The name that a path ends in, if its last component is one. -/
def fileName? (path : String) : Option String :=
  match (components path).getLast? with
  | some (.name s) => some s
  | _ => none

end Path

end Assay.Files
