import Assay.Files.Tree
import Assay.Files.Wildcard
import Assay.Shape.Parser
import Assay.Text.Quoted

/-!
# Failures

A failure is a chain of causes, from the outermost context to what went wrong first. Most contexts
are mere texts; the causes that callers tell apart have constructors of their own.
-/

namespace Assay

/-- What is wrong with a task description or with the composition of a suite. -/
inductive ConfigError where
  | duplicateTask (name : String)
  | invalidTaskName (name : String)
  | unknownVariant (field value : String)
  | shape (e : ShapeError)
  | unsupportedKind (name : String)
  | answerShape (path expected reason : String)
  | missingField (name : String)
  deriving DecidableEq, Repr

/-- The wording of a configuration error. -/
def ConfigError.message : ConfigError → String
  | .duplicateTask name => "Duplicate task name: `" ++ name ++ "`."
  | .invalidTaskName name =>
    "Invalid task name: `" ++ name ++ "`. Must be a valid identifier/filename."
  | .unknownVariant field value => "Unknown " ++ field ++ ": `" ++ value ++ "`"
  | .shape (.badDescription text) => "Invalid type description: " ++ text
  | .shape (.unknownType name) => "Unknown type: " ++ name
  | .unsupportedKind name => "Unknown task type: " ++ name
  | .answerShape path expected reason =>
    "Answer " ++ Text.quotedPath path ++ " does not match declared type `" ++ expected ++ "`: " ++
      reason
  | .missingField name => name ++ " must be set"

/-- A link of a chain of causes. -/
inductive Cause where
  | config (e : ConfigError)
  | file (e : Files.FileError)
  | json (message : String)
  | yaml (message : String)
  | pattern (e : Files.PatternError)
  | note (text : String)
  deriving DecidableEq, Repr

/-- The wording of a cause. -/
def Cause.message : Cause → String
  | .config e => e.message
  | .file e => e.message
  | .json message => message
  | .yaml message => message
  | .pattern e => e.message
  | .note text => text

/-- A chain of causes, the outermost first. -/
structure Failure where
  outermost : Cause
  rest : List Cause
  deriving DecidableEq, Repr

namespace Failure

/-- A failure with one cause. -/
def of (cause : Cause) : Failure := ⟨cause, []⟩

/-- A failure that is told in words. -/
def note (text : String) : Failure := of (.note text)

/-- Puts a failure into a context. -/
def within (context : String) (f : Failure) : Failure :=
  ⟨.note context, f.outermost :: f.rest⟩

/-- All causes, the outermost first. -/
def causes (f : Failure) : List Cause :=
  f.outermost :: f.rest

/-- The causes in one line. -/
def message (f : Failure) : String :=
  String.intercalate ": " (f.causes.map Cause.message)

end Failure

/-- An outcome whose failure is put into a context. -/
def inContext (context : String) (outcome : Except Failure α) : Except Failure α :=
  outcome.mapError (·.within context)

/-- A file operation whose failure is put into a context. -/
def fileContext (context : String) (outcome : Except Files.FileError α) : Except Failure α :=
  outcome.mapError fun e => (Failure.of (.file e)).within context

/-- A step of configuration. -/
def configured (outcome : Except ConfigError α) : Except Failure α :=
  outcome.mapError fun e => .of (.config e)

end Assay
