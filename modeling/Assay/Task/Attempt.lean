import Assay.Event
import Assay.Model.Basic
import Assay.Prediction
import Assay.Shape.Check
import Assay.Task.Description
import Assay.Task.Program
import Assay.Task.Trace

/-!
# Attempts

An attempt puts one program to a model. It yields a trace for the log, the prediction or the
failure, and warnings. A prediction comes from the first completion; one that cannot be read is
blank, and one of another shape than the task declares is kept as it is.
-/

namespace Assay

/-- What came of putting one program to a model. -/
structure Attempt where
  trace : Trace
  outcome : Except Failure Json
  events : List Event

namespace Program

/-- The call for a program; there is none for a program that cannot be asked about. -/
def call? (p : Program) : Option Call :=
  match p.source with
  | .file text _ => some (.ofPrompt text)
  | .project .. => none

/-- The failure of a program that cannot be asked about. -/
def unsupported (p : Program) : Failure :=
  .note ("multi-file program " ++ p.name ++ " is not supported")

/-- The attempt that failed without a completion. -/
def failed (p : Program) (timing : Timing) (error : String) (outcome : Failure) : Attempt where
  trace := ⟨p.name, timing, none, false, some error⟩
  outcome := .error outcome
  events := []

/-- The warning for a prediction whose shape is not the declared one. -/
def misfits (p : Program) (config : TaskConfig) (prediction : Json) : List Event :=
  match config.shape with
  | none => []
  | some shape =>
    match shape.check prediction with
    | .ok () => []
    | .error reason => [.misfit config.name p.name shape.spell reason]

/-- The attempt that a completion makes. -/
def completed (p : Program) (config : TaskConfig) (timing : Timing) (output : String) : Attempt :=
  match readPrediction output with
  | .ok prediction =>
    ⟨⟨p.name, timing, some output, true, none⟩, .ok prediction, p.misfits config prediction⟩
  | .error error =>
    ⟨⟨p.name, timing, some output, false, none⟩, .ok blankPrediction,
      [.unreadable config.name p.name output error]⟩

/-- The attempt that the reply of a model makes. -/
def replied (p : Program) (config : TaskConfig) (timing : Timing) : Reply → Attempt
  | .error f => p.failed timing f.message (f.within ("Model call failed for " ++ p.name))
  | .ok (output :: _) => p.completed config timing output
  | .ok [] =>
    let attempt := p.completed config timing ""
    { attempt with events := .noSamples config.name p.name :: attempt.events }

/-- The attempt that failed because a program cannot be asked about. -/
def refused (p : Program) (timing : Timing) : Attempt :=
  p.failed timing p.unsupported.message p.unsupported

/-- Puts a program to a model. -/
def attempt [Monad m] (p : Program) (config : TaskConfig) (clock : Clock m) (model : Model m) :
    m Attempt := do
  let start ← clock
  match p.call? with
  | none => pure (p.refused (.between start (← clock)))
  | some call =>
    let reply ← model call
    pure (p.replied config (.between start (← clock)) reply)

/-- A clock that tells given times, one after the other. -/
def given : Clock (StateM (List Nat)) :=
  fun times => (times.headD 0, times.tail)

/-- The attempt that is made between two times with a model without effects. -/
def answered (p : Program) (config : TaskConfig) (start finish : Nat) (model : Call → Reply) :
    Attempt :=
  ((p.attempt config given fun call => pure (model call)).run [start, finish]).1

theorem answered_eq (p : Program) (config : TaskConfig) (start finish : Nat)
    (model : Call → Reply) :
    p.answered config start finish model =
      match p.call? with
      | none => p.refused (.between start finish)
      | some call => p.replied config (.between start finish) (model call) := by
  unfold answered attempt
  cases p.call? with
  | none => rfl
  | some call => rfl

end Program

end Assay
