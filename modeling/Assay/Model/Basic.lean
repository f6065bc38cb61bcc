import Assay.Failure

/-!
# Models under evaluation

A model answers a call, which holds a prompt and how many completions of which length are wanted,
with a list of completions or with a failure. Answering may have effects of some monad; a model
without effects is a function.
-/

namespace Assay

/-- What a model is asked for. -/
structure Call where
  prompt : String
  samples : Nat
  maxLength : Nat
  stop : List String
  deriving DecidableEq, Repr

namespace Call

/-- The mark at which completions end. -/
def endMark : String := "[eod]"

/-- A call for a single completion of a prompt. -/
def ofPrompt (prompt : String) : Call :=
  ⟨prompt, 1, 1024, [endMark]⟩

end Call

/-- Completions, or why there are none. -/
abbrev Reply := Except Failure (List String)

/-- A model whose answers have effects of `m`. -/
abbrev Model (m : Type → Type) := Call → m Reply

namespace Model

/-- The model that answers every prompt with one empty completion. -/
def null [Monad m] : Model m :=
  fun _ => pure (.ok [""])

/-- The model that gives one completion, computed from the prompt. -/
def ofFunction [Monad m] (complete : String → m (Except Failure String)) : Model m :=
  fun call => do
    match ← complete call.prompt with
    | .ok completion => pure (.ok [completion])
    | .error f => pure (.error f)

/-- Whether a text occurs in another one. -/
def occursIn (part : List Char) : List Char → Bool
  | [] => part.isEmpty
  | c :: rest => part.isPrefixOf (c :: rest) || occursIn part rest

/-- The model with prepared answers: the first part that occurs in a prompt decides, and a prompt
in which none occurs is answered with the empty text. -/
def canned [Monad m] (answers : List (String × String)) : Model m :=
  fun call =>
    let answer := answers.find? fun entry => occursIn entry.1.toList call.prompt.toList
    pure (.ok [(answer.map Prod.snd).getD ""])

end Model

end Assay
