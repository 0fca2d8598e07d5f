/-!
# The life of a run

A run is pending until it is started, running until it is finished, and then
in one of three final states, which it never leaves.  A tracker holds the
state and admits no other moves.
-/

namespace Scenario

/-- Where a run stands. -/
inductive RunState where
  | pending
  | running
  | completed
  | stoppedAtFailure
  | stoppedAtFalseCondition
deriving DecidableEq, Repr

namespace RunState

/-- The state in words. -/
def description : RunState → String
  | pending => "pending"
  | running => "running"
  | completed => "completed"
  | stoppedAtFailure => "stopped at failure"
  | stoppedAtFalseCondition => "stopped at false condition"

/-- The run is over. -/
def IsFinal : RunState → Prop
  | pending => False
  | running => False
  | _ => True

instance (state : RunState) : Decidable state.IsFinal :=
  match state with
  | pending => inferInstanceAs (Decidable False)
  | running => inferInstanceAs (Decidable False)
  | completed => inferInstanceAs (Decidable True)
  | stoppedAtFailure => inferInstanceAs (Decidable True)
  | stoppedAtFalseCondition => inferInstanceAs (Decidable True)

end RunState

/-- A move that a run does not admit. -/
inductive TransitionError where
  | alreadyStarted (state : RunState)
  | invalid (state target : RunState)
deriving DecidableEq, Repr

/-- The text of the error. -/
def TransitionError.message : TransitionError → String
  | alreadyStarted state => s!"Cannot start a run that is {state.description}"
  | invalid state target =>
    s!"Cannot move from {state.description} to {target.description}"

/-- What holds the state of a run. -/
structure RunTracker where
  state : RunState := .pending
deriving DecidableEq, Repr

namespace RunTracker

/-- Start a run that is pending. -/
def start (tracker : RunTracker) : Except TransitionError RunTracker :=
  if tracker.state = .pending then
    .ok { state := .running }
  else
    .error (.alreadyStarted tracker.state)

/-- Finish a run that is running. -/
def finish
    (tracker : RunTracker)
    (target : RunState) :
    Except TransitionError RunTracker :=
  if tracker.state = .running ∧ target.IsFinal then
    .ok { state := target }
  else
    .error (.invalid tracker.state target)

/-- A run that is over cannot be started. -/
theorem start_of_isFinal
    {tracker : RunTracker}
    (finished : tracker.state.IsFinal) :
    tracker.start = .error (.alreadyStarted tracker.state) := by
  have started : tracker.state ≠ .pending := by
    intro pending
    simp [pending, RunState.IsFinal] at finished
  simp [start, started]

end RunTracker

end Scenario
