import Assay.Files.Path

/-!
# File trees

The files and directories below a root. A place is the list of names that leads to a file or a
directory from the root; the empty place is the root itself. One place is the current directory,
where relative paths begin. A path names a place by walking: every part but the last must lead to
a directory, and two dots go up. There are no links, neither symbolic nor hard ones: two dots lead
back to where the walk came from, and no two places share a content.
-/

namespace Assay.Files

/-- The content of a file: Unicode text, or bytes that are none. -/
inductive Content where
  | text (s : String)
  | bytes (data : List UInt8)
  deriving DecidableEq, Repr

/-- What stands at a place. -/
inductive Entry where
  | file (content : Content)
  | directory
  deriving DecidableEq, Repr

/-- Why an operation on files fails. -/
inductive FileError where
  | notFound
  | alreadyExists
  | notDirectory
  | isDirectory
  | nameTooLong
  | nullByte
  | notUnicode
  deriving DecidableEq, Repr

/-- The wording of a file error. -/
def FileError.message : FileError → String
  | .notFound => "No such file or directory (os error 2)"
  | .alreadyExists => "File exists (os error 17)"
  | .notDirectory => "Not a directory (os error 20)"
  | .isDirectory => "Is a directory (os error 21)"
  | .nameTooLong => "File name too long (os error 36)"
  | .nullByte => "file name contained an unexpected NUL byte"
  | .notUnicode => "stream did not contain valid UTF-8"

/-- The names that lead from the root to a file or directory. -/
abbrev Place := List String

/-- The current directory, and the entries below the root by place. -/
structure Tree where
  here : Place
  entries : List (Place × Entry)
  deriving Repr

namespace Tree

/-! ## Places -/

/-- What stands at a place; the root is always there. -/
def look (t : Tree) (place : Place) : Option Entry :=
  if place = [] then some .directory else t.entries.lookup place

/-- Sets what stands at a place. -/
def put (t : Tree) (place : Place) (entry : Entry) : Tree :=
  { t with entries := replace t.entries }
where
  /-- Replaces the entry of the place, or adds it at the end. -/
  replace : List (Place × Entry) → List (Place × Entry)
    | [] => [(place, entry)]
    | (other, old) :: rest =>
      if other = place then (place, entry) :: rest else (other, old) :: replace rest

/-- The tree that holds only the current directory and the way to it. -/
def empty (here : Place) : Tree where
  here := here
  entries := (List.range here.length).map fun i => (here.take (i + 1), .directory)

/-- The names of what stands directly in a directory. -/
def children (t : Tree) (place : Place) : List String :=
  t.entries.filterMap fun (other, _) =>
    match other.getLast? with
    | some name => if other.dropLast = place then some name else none
    | none => none

/-! ## Walking -/

/-- The greatest number of bytes of a name. -/
def maxNameBytes : Nat := 255

/-- The greatest number of bytes of a path. -/
def maxPathBytes : Nat := 4095

/-- The fault of a path that names no place in any tree, if it has one. -/
def pathFault? (path : String) : Option FileError :=
  if path = "" then some .notFound
  else if path.toList.contains '\x00' then some .nullByte
  else if maxPathBytes < path.utf8ByteSize then some .nameTooLong
  else none

/-- Goes from a place to a part of a path. -/
def step (t : Tree) (place : Place) (part : String) : Except FileError Place :=
  match t.look place with
  | some .directory =>
    if part = "" ∨ part = "." then .ok place
    else if part = ".." then .ok place.dropLast
    else if maxNameBytes < part.utf8ByteSize then .error .nameTooLong
    else if (t.look (place ++ [part])).isSome then .ok (place ++ [part])
    else .error .notFound
  | some (.file _) => .error .notDirectory
  | none => .error .notFound

/-- Goes from a place along the parts of a path. -/
def walk (t : Tree) (place : Place) : List String → Except FileError Place
  | [] => .ok place
  | part :: rest => do
    let next ← t.step place part
    t.walk next rest

/-- The place where a path begins. -/
def origin (t : Tree) (path : String) : Place :=
  if Path.isAbsolute path then [] else t.here

/-- The place that a path leads to. -/
def resolve (t : Tree) (path : String) : Except FileError Place :=
  match pathFault? path with
  | some fault => .error fault
  | none => t.walk (t.origin path) (Path.parts path)

/-- What stands where a path leads to. -/
def stat (t : Tree) (path : String) : Except FileError Entry := do
  let place ← t.resolve path
  match t.look place with
  | some entry => .ok entry
  | none => .error .notFound

/-- Whether a path leads to a directory. -/
def isDirectory (t : Tree) (path : String) : Bool :=
  match t.stat path with
  | .ok .directory => true
  | _ => false

/-- Whether a path leads to a file. -/
def isFile (t : Tree) (path : String) : Bool :=
  match t.stat path with
  | .ok (.file _) => true
  | _ => false

/-- Whether something stands at a path; a fault other than its absence is an error. -/
def tryExists (t : Tree) (path : String) : Except FileError Bool :=
  match t.stat path with
  | .ok _ => .ok true
  | .error .notFound => .ok false
  | .error e => .error e

/-! ## Reading and writing -/

/-- The text of a file. -/
def readText (t : Tree) (path : String) : Except FileError String :=
  match t.stat path with
  | .ok (.file (.text s)) => .ok s
  | .ok (.file (.bytes _)) => .error .notUnicode
  | .ok .directory => .error .isDirectory
  | .error e => .error e

/-- The place of the last part of a path in the directory before it. Nothing needs to stand there;
a path that ends in dots or a slash names a directory. -/
def target (t : Tree) (path : String) : Except FileError (Option Place) :=
  match pathFault? path with
  | some fault => .error fault
  | none => do
    let all := Path.parts path
    let place ← t.walk (t.origin path) all.dropLast
    match t.look place, all.getLast? with
    | some .directory, some last =>
      if last = "" ∨ last = "." ∨ last = ".." then .ok none
      else if maxNameBytes < last.utf8ByteSize then .error .nameTooLong
      else .ok (some (place ++ [last]))
    | some (.file _), _ => .error .notDirectory
    | _, _ => .error .notFound

/-- Writes a text file, in the place of an older one. -/
def writeText (t : Tree) (path text : String) : Except FileError Tree := do
  match ← t.target path with
  | none => .error .isDirectory
  | some place =>
    match t.look place with
    | some .directory => .error .isDirectory
    | _ => .ok (t.put place (.file (.text text)))

/-- A path without the slashes at its end; the root keeps one. -/
def trimSlashes (path : String) : String :=
  match (path.toList.reverse.dropWhile (· == '/')).reverse with
  | [] => if path = "" then "" else "/"
  | kept => String.ofList kept

/-- Makes a directory in one that is there. -/
def makeDirectory (t : Tree) (path : String) : Except FileError Tree := do
  match pathFault? path with
  | some fault => .error fault
  | none =>
    match ← t.target (trimSlashes path) with
    | none => .error .alreadyExists
    | some place =>
      match t.look place with
      | some _ => .error .alreadyExists
      | none => .ok (t.put place .directory)

/-- Makes a directory. One that is there already is as good as a new one. Gives the fault, if there
is one, and the tree in any case. -/
def ensureDirectory (t : Tree) (path : String) : Option FileError × Tree :=
  match t.makeDirectory path with
  | .ok made => (none, made)
  | .error e => (if t.isDirectory path then none else some e, t)

/-- The text of a component of a path. -/
def componentText : Component → String
  | .root => ""
  | .here => "."
  | .up => ".."
  | .name s => s

/-- Makes the directory of the first `count` components of a path, and first those on the way to it
if they are missing. -/
def ensureFirst (t : Tree) (components : List Component) : Nat → Option FileError × Tree
  | 0 => (none, t)
  | count + 1 =>
    let path := String.intercalate "/" ((components.take (count + 1)).map componentText)
    match t.ensureDirectory path with
    | (some .notFound, _) =>
      match t.ensureFirst components count with
      | (none, t) => t.ensureDirectory path
      | failed => failed
    | done => done

/-- Makes a directory and all the directories on the way to it that are not there. Those that were
made stay when a later one cannot be made. -/
def makeDirectories (t : Tree) (path : String) : Option FileError × Tree :=
  if path = "" then (none, t)
  else
    match t.ensureDirectory path with
    | (some .notFound, _) =>
      let components := Path.components path
      match t.ensureFirst components (components.length - 1) with
      | (none, t) => t.ensureDirectory path
      | failed => failed
    | done => done

end Tree

end Assay.Files
