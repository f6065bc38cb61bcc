import Assay.Failure
import Assay.Task.Trace

/-!
# The log of a task

The traces of a task, one on each line of a file in the log directory of the task. Writing a log
replaces an older one. Reading passes over blank lines.
-/

namespace Assay.Log

/-- The name of the file in its directory. -/
def fileName : String := "predictions.jsonl"

/-- The file of a log directory. -/
def path (directory : String) : String :=
  Files.Path.join directory fileName

/-! ## Writing -/

/-- One line for each trace. -/
def chars (traces : List Trace) : List Char :=
  traces.flatMap fun t => t.lineChars ++ ['\n']

/-- The text of a log. -/
def text (traces : List Trace) : String :=
  String.ofList (chars traces)

/-- Writes the log of a directory. -/
def write (tree : Files.Tree) (directory : String) (traces : List Trace) :
    Except Failure Files.Tree :=
  fileContext ("Failed to write " ++ Text.quotedPath (path directory))
    (tree.writeText (path directory) (text traces))

/-! ## Reading -/

/-- A line without the carriage return that belongs to its end. -/
def dropReturn (line : List Char) : List Char :=
  if line.getLast? = some '\r' then line.dropLast else line

/-- The lines of a text. A line break ends a line and begins none, and what follows the last one is
a line only if it is not empty. -/
def lines (text : List Char) : List (List Char) :=
  match (text.splitOn '\n').reverse with
  | [] => []
  | last :: ended =>
    let ended := ended.reverse.map dropReturn
    if last.isEmpty then ended else ended ++ [last]

/-- Whether a line holds more than white space. -/
def hasContent (line : List Char) : Bool :=
  line.any fun c => !Text.isBlank c

/-- The traces of a text. Of lines that hold no trace the first one is reported, by its number among
the lines that are not blank. -/
def ofText (text : String) : Except Failure (List Trace) :=
  ((lines text.toList).filter hasContent).zipIdx.mapM fun (line, i) =>
    inContext ("Invalid JSON on line " ++ toString (i + 1))
      ((Trace.ofLine (String.ofList line)).mapError fun message => .of (.json message))

/-- Reads the log of a directory. -/
def read (tree : Files.Tree) (directory : String) : Except Failure (List Trace) := do
  let text ← fileContext ("Failed to read " ++ Text.quotedPath (path directory))
    (tree.readText (path directory))
  ofText text

end Assay.Log
