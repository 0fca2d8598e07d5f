import Scenario.Run
import Scenario.RunState
import Scenario.Sink

/-!
# Engines

An engine owns a document and runs it, once.  When the run is over, the
document it has left is given to a sink, except when the run met a kind that no
action answers to.  A sink that refuses the document decides what the run
returns, whatever its end was.
-/

namespace Scenario

/-- How a run that returned without an error ended.  Steps are counted from
one. -/
inductive Outcome where
  | completed
  | stoppedAtFalseCondition (step : Nat)
deriving DecidableEq, Repr

/-- The error that a run returns.  Steps are counted from one. -/
inductive EngineError where
  | invalidAction (step : Nat) (kind : ActionKind)
  | stepFailed (step : Nat) (error : ActionError)
  | persist (error : PersistError)
  | transition (error : TransitionError)
deriving DecidableEq, Repr

namespace EngineError

/-- The kind of the error, if a step caused it. -/
def kind? : EngineError → Option ErrorKind
  | invalidAction .. => some .invalidAction
  | stepFailed _ error => some error.kind
  | persist _ => none
  | transition _ => none

/-- The text of the error. -/
def message : EngineError → String
  | invalidAction step kind => s!"invalid action step {kind.name} (step {step})"
  | stepFailed step error => s!"step {step} failed: {error.message}"
  | persist error => error.message
  | transition error => error.message

/-- The texts of the errors behind the error, the nearest first. -/
def causes : EngineError → List String
  | stepFailed _ error => error.message :: error.causes
  | persist failure => [failure.error.message]
  | _ => []

end EngineError

/-- What the steps of a run decide about what it returns. -/
def Ending.result : Ending → Except EngineError Outcome
  | .completed => .ok .completed
  | .falseCondition position => .ok (.stoppedAtFalseCondition (position + 1))
  | .failed position error => .error (.stepFailed (position + 1) error)
  | .unregistered position kind => .error (.invalidAction (position + 1) kind)

/-- The state in which a run is over. -/
def Ending.state : Ending → RunState
  | .completed => .completed
  | .falseCondition _ => .stoppedAtFalseCondition
  | .failed .. => .stoppedAtFailure
  | .unregistered .. => .stoppedAtFailure

/-- The document that the run leaves is given to the sink. -/
def Ending.IsPersisted : Ending → Prop
  | .unregistered .. => False
  | _ => True

instance (ending : Ending) : Decidable ending.IsPersisted :=
  match ending with
  | .completed => inferInstanceAs (Decidable True)
  | .falseCondition _ => inferInstanceAs (Decidable True)
  | .failed .. => inferInstanceAs (Decidable True)
  | .unregistered .. => inferInstanceAs (Decidable False)

/-- Every state in which a run is over is final. -/
@[simp]
theorem Ending.state_isFinal (ending : Ending) : ending.state.IsFinal := by
  cases ending <;> trivial

/-- A document and the state of its run. -/
structure Engine where
  document : Document
  tracker : RunTracker := {}
deriving DecidableEq, Repr

/-- What a run of an engine gives: a result, and the engine after the run. -/
structure EngineRun where
  result : Except EngineError Outcome
  engine : Engine
  log : List LogEvent := []

namespace Engine

variable {m : Type → Type} [Monad m]

/-- The state of the run. -/
def state (engine : Engine) : RunState :=
  engine.tracker.state

/-- End a run with a report, and give the document to the sink. -/
def conclude
    (sink : Sink m)
    (tracker : RunTracker)
    (report : Report) :
    m EngineRun :=
  match tracker.finish report.ending.state with
  | .error error =>
    pure {
      result := .error (.transition error)
      engine := { document := report.document, tracker }
      log := report.log }
  | .ok tracker => do
    let engine := { document := report.document, tracker }
    if report.ending.IsPersisted then
      let kept ← sink report.document
      return {
        result :=
          match kept.value with
          | .ok () => report.ending.result
          | .error error => .error (.persist error)
        engine
        log := report.log ++ kept.log }
    else
      return { result := report.ending.result, engine, log := report.log }

/-- Run the document of an engine, unless it has been run already. -/
def run
    (registry : Registry m)
    (sink : Sink m)
    (engine : Engine) :
    m EngineRun :=
  match engine.tracker.start with
  | .error error =>
    pure { result := .error (.transition error), engine }
  | .ok tracker => do
    let report ← Run.steps registry engine.document.steps
    conclude sink tracker report

end Engine

/-- Run a document once, and give it back with the result. -/
def runDocument
    {m : Type → Type}
    [Monad m]
    (registry : Registry m)
    (sink : Sink m)
    (document : Document) :
    m EngineRun :=
  Engine.run registry sink { document }

end Scenario
