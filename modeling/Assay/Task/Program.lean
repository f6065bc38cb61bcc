import Assay.Json.Value
import Assay.Task.Vocabulary

/-!
# Programs

A program is one instance of a task: something to ask a model about, and the gold answer. Only
programs of a single file can be asked about.
-/

namespace Assay

/-- What a program consists of. -/
inductive Source where
  /-- A file, by its text. -/
  | file (text : String) (language : Language)
  /-- A directory that is built by a command. -/
  | project (path build : String)
  deriving DecidableEq, Repr

/-- A program and its gold answer. -/
structure Program where
  name : String
  gold : Json
  source : Source

end Assay
