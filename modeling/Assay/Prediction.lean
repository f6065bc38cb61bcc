import Assay.Json.Reader

/-!
# Predictions

Models tend to answer with single quotes where JSON wants double ones. A prediction is therefore
read as JSON after every apostrophe was turned into a double quote.
-/

namespace Assay

/-- Apostrophes turned into double quotes. -/
def straightenQuotes (raw : List Char) : List Char :=
  raw.map fun c => if c = '\'' then '"' else c

/-- The prediction of a completion, or what is wrong with its text. -/
def readPrediction (raw : String) : Except String Json :=
  let text := straightenQuotes raw.toList
  (Json.parse text).mapError (·.message text)

/-- The prediction that stands for a completion that is no JSON; it scores zero everywhere. -/
def blankPrediction : Json := .str ""

/-- The prediction of a completion, blank when it cannot be read. -/
def predictionOf (raw : String) : Json :=
  match readPrediction raw with
  | .ok v => v
  | .error _ => blankPrediction

end Assay
