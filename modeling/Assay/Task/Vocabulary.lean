import Assay.Failure
import Assay.Score.Answer
import Assay.Text.Blank
import Assay.Text.Upper

/-!
# The vocabulary of task descriptions

The enumerated fields of a description and their names. A name is found whatever its case and
whatever white space stands around it.
-/

namespace Assay

/-- What one program of a task is. -/
inductive TaskKind where
  | perFile
  | perDirectory
  deriving DecidableEq, Repr

/-- The language of the programs of a task. -/
inductive Language where
  | c
  | cPlusPlus
  | python
  | java
  deriving DecidableEq, Repr

/-- An enumerated field: what messages call it, and its values by name. -/
structure Vocabulary (τ : Type) where
  field : String
  table : List (String × τ)

namespace Vocabulary

/-- A text as it is compared with the names. -/
def folded (value : String) : String :=
  String.ofList (Text.upper (Text.trim value.toList))

/-- The value with a name. -/
def find (v : Vocabulary τ) (value : String) : Except ConfigError τ :=
  match v.table.lookup (folded value) with
  | some found => .ok found
  | none => .error (.unknownVariant v.field value)

/-- The name of a value. -/
def nameOf [DecidableEq τ] (v : Vocabulary τ) (value : τ) : String :=
  match v.table.find? fun entry => decide (entry.2 = value) with
  | some (name, _) => name
  | none => "?"

end Vocabulary

namespace TaskKind

/-- The names of the task kinds. -/
def vocabulary : Vocabulary TaskKind :=
  ⟨"task type", [("PER_FILE", .perFile), ("PER_DIRECTORY", .perDirectory)]⟩

/-- The name of a task kind. -/
def name (k : TaskKind) : String := vocabulary.nameOf k

end TaskKind

namespace Language

/-- The names of the languages. -/
def vocabulary : Vocabulary Language :=
  ⟨"language", [("C", .c), ("C_PLUS_PLUS", .cPlusPlus), ("PYTHON", .python), ("JAVA", .java)]⟩

/-- The name of a language. -/
def name (l : Language) : String := vocabulary.nameOf l

end Language

namespace Metric

/-- The names of the metrics. -/
def vocabulary : Vocabulary Metric :=
  ⟨"metric", [("PRF1", .prf1), ("CLUSTER_PRF1", .clusterPrf1)]⟩

/-- The name of a metric. -/
def name (m : Metric) : String := vocabulary.nameOf m

end Metric

end Assay
