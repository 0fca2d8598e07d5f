import Scenario.Forwarding
import Scenario.Registry

/-!
# Runs

A run performs the steps of a list in order.  Each step's action is called once
on the step's arguments; what the step forwards is then delivered to the next
step before that one is performed.

A run stops early at a step that fails, at a condition that does not hold, and
at a kind that no action answers to.  A step has failed as well if the change
time that the next step needs cannot be looked up, although its own action has
done its work.  A condition that does not hold has succeeded as a step, but
nothing behind it is performed.  All steps that a stop leaves behind are marked
as failed, except when no action answers: then they stay as they are.
-/

namespace Scenario

/-- How a run ended.  Steps are named by their position, counted from zero. -/
inductive Ending where
  /-- All steps were performed. -/
  | completed
  /-- A condition does not hold. -/
  | falseCondition (position : Nat)
  /-- A step failed. -/
  | failed (position : Nat) (error : ActionError)
  /-- No action answers to the kind that a step needs. -/
  | unregistered (position : Nat) (kind : ActionKind)
deriving DecidableEq, Repr

/-- What a run leaves: the steps with their outcomes, how many of them it has
marked, and how it ended. -/
structure Report where
  steps : List Step
  /-- The number of steps that were marked as succeeded. -/
  success : Nat := 0
  /-- The number of steps that were marked as failed. -/
  failed : Nat := 0
  ending : Ending
  log : List LogEvent := []
deriving DecidableEq, Repr

namespace Report

/-- The report with a step that succeeded, and what it logged, put in front. -/
def after
    (report : Report)
    (step : Step)
    (log : List LogEvent) :
    Report :=
  { report with
    steps := step.succeeded :: report.steps
    success := report.success + 1
    log := log ++ report.log }

end Report

/-- What keeps a step from being completed. -/
inductive Obstacle where
  /-- An action failed. -/
  | failure (error : ActionError)
  /-- No action answers to a kind. -/
  | unregistered (kind : ActionKind)
deriving DecidableEq, Repr

namespace Run

/-- An event of a run. -/
def event (level : Level) (message : String) : LogEvent :=
  { level, source := .engine, message }

/-- The event of the action of a step being called. -/
def callEvent (position : Nat) (kind : ActionKind) : LogEvent :=
  event .info s!"run step {position + 1} action {kind.name}"

/-- The event of a change time being looked up. -/
def lookupEvent (arguments : List String) : LogEvent :=
  event .debug s!"implicit c_time on {Text.quotedList arguments}"

/-- The event of arguments being delivered to the step at a position. -/
def deliveryEvent
    (position : Nat)
    (kind : ActionKind)
    (forwarded : List String) :
    LogEvent :=
  event .info <|
    s!"set args {Text.quotedList forwarded} to next step " ++
      s!"num {position + 1} action {kind.name}"

/-- The run stops because the condition in front does not hold. -/
def stopFalse
    (position : Nat)
    (log : List LogEvent)
    (condition : Step)
    (rest : List Step) :
    Report :=
  { steps := condition.succeeded :: rest.map Step.failed
    success := 1
    failed := rest.length
    ending := .falseCondition position
    log := log ++
      [event .info s!"condition at step {position + 1} is false, stopping"] }

/-- The run stops because the step in front cannot be completed. -/
def stop
    (position : Nat)
    (log : List LogEvent)
    (steps : List Step) :
    Obstacle → Report
  | .failure error =>
    { steps := steps.map Step.failed
      failed := steps.length
      ending := .failed position error
      log := log ++
        [event .warn s!"step {position + 1} failed: {error.message}"] }
  | .unregistered kind =>
    { steps
      ending := .unregistered position kind
      log := log ++
        [event .warn
          s!"invalid action {kind.name} at step {position + 1}"] }

variable {m : Type → Type} [Monad m]

/-- Call the action of a kind, if there is one, and announce the call with an
event. -/
def call
    (registry : Registry m)
    (kind : ActionKind)
    (announcement : LogEvent)
    (arguments : List String) :
    m (Logged (Except Obstacle String)) :=
  match registry.find? kind with
  | none => pure { value := .error (.unregistered kind) }
  | some action => do
    let reply ← action arguments
    return {
      value := reply.value.mapError .failure
      log := announcement :: reply.log }

/-- Perform the step at a position and then the steps behind it. -/
def perform
    (registry : Registry m)
    (position : Nat)
    (current : Step)
    (rest : List Step) :
    m Report := do
  let reply ← call registry current.kind
    (callEvent position current.kind) current.arguments
  match reply.value with
  | .error (.failure .falseCondition) =>
    return stopFalse position reply.log current rest
  | .error obstacle =>
    return stop position reply.log (current :: rest) obstacle
  | .ok result =>
    match rest with
    | [] =>
      return {
        steps := [current.succeeded]
        success := 1
        ending := .completed
        log := reply.log }
    | next :: rest =>
      let handover ← (Forwarding.forPair current.kind next.kind).forward
        result current.arguments fun base =>
          call registry .cTime (lookupEvent base) base
      let log := reply.log ++ handover.log
      match handover.value with
      | .error obstacle =>
        return stop position log (current :: next :: rest) obstacle
      | .ok forwarded =>
        let report ← perform registry (position + 1)
          (next.deliver forwarded) rest
        return report.after current
          (log ++ [deliveryEvent (position + 1) next.kind forwarded])
termination_by structural rest

/-- Perform a list of steps. -/
def steps (registry : Registry m) (steps : List Step) : m Report :=
  match steps with
  | [] => pure { steps := [], ending := .completed }
  | first :: rest => perform registry 0 first rest

end Run

namespace Ending

/-- The number, counted from one, of the first step that failed, or would have
been the next to be performed, if the run stopped with an error on record. -/
def failedStep? : Ending → Option Nat
  | completed => none
  | falseCondition position => some (position + 2)
  | failed position _ => some (position + 1)
  | unregistered .. => none

/-- The error on record. -/
def error? : Ending → Option ActionError
  | completed => none
  | falseCondition _ => some .falseCondition
  | failed _ error => some error
  | unregistered .. => none

end Ending

namespace Report

/-- The summary of a run. -/
def summary (report : Report) : Summary where
  total := report.steps.length
  success := report.success
  failed := report.failed
  failedStep? := report.ending.failedStep?
  error? := report.ending.error?.map ActionError.message
  errorKind? := report.ending.error?.map ActionError.kind

/-- The document that a run leaves. -/
def document (report : Report) : Document where
  steps := report.steps
  summary := report.summary

end Report

end Scenario
