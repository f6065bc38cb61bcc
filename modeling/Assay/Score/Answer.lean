import Assay.Json.Printer
import Assay.Score.Cluster

/-!
# Scoring answers

Answers are JSON documents. Their items are compared by keys: a string by its text, anything else
by its compact JSON text, and a string never equals what is not a string. What is no list has no
items.
-/

namespace Assay

/-- What an item of an answer is compared by. -/
inductive ItemKey where
  /-- A string, by its text. -/
  | text (s : String)
  /-- Any other document, by its compact text. -/
  | document (s : String)
  deriving DecidableEq, Repr

namespace ItemKey

/-- Strings come before other documents; each kind is ordered by its text. -/
def less : ItemKey → ItemKey → Bool
  | .text a, .text b => decide (a < b)
  | .text _, .document _ => true
  | .document _, .text _ => false
  | .document a, .document b => decide (a < b)

instance : LT ItemKey where
  lt a b := less a b = true

instance : DecidableLT ItemKey := fun a b => inferInstanceAs (Decidable (less a b = true))

/-- The key of an item. -/
def ofJson : Json → ItemKey
  | .str s => .text s
  | v => .document v.compact

end ItemKey

/-- The items of a flat answer. -/
def answerItems (answer : Json) : List ItemKey :=
  (answer.items?.getD []).map ItemKey.ofJson

/-- The clusters of a clustering; a cluster that is no list is empty. -/
def answerClusters (answer : Json) : List (List ItemKey) :=
  (answer.items?.getD []).map answerItems

/-- How answers are compared with gold answers. -/
inductive Metric where
  /-- As sets of items. -/
  | prf1
  /-- As clusterings, by the pairs of items they put together. -/
  | clusterPrf1
  deriving DecidableEq, Repr, Inhabited

namespace Metric

/-- The name of the comparison. -/
def scorerName : Metric → String
  | .prf1 => "prf1"
  | .clusterPrf1 => "cluster_prf1"

/-- The score of an answer against the expected one. -/
def compare [Arithmetic α] (metric : Metric) (expected answer : Json) : Prf α :=
  match metric with
  | .prf1 => overlapScore (answerItems answer) (answerItems expected)
  | .clusterPrf1 => clusterScore (answerClusters answer) (answerClusters expected)

/-- The score of an answer as named metrics. -/
def score [Arithmetic α] (metric : Metric) (expected answer : Json) : Register α :=
  (metric.compare expected answer).metrics

end Metric

end Assay
