import Scenario.ActionKind

/-!
# Steps

A step is one action to perform, with the arguments configured for it and,
once a run has passed over it, the outcome recorded for it.
-/

namespace Scenario

/-- The recorded outcome of a step. -/
inductive StepStatus where
  | success
  | failed
deriving DecidableEq, Repr

namespace StepStatus

/-- The spelling of an outcome, in lower case. -/
def name : StepStatus → String
  | success => "success"
  | failed => "failed"

/-- Read an outcome; unlike a kind, it has to be spelled exactly. -/
def ofName (text : String) : Except NameError StepStatus :=
  match [success, failed].find? fun status => status.name == text with
  | some status => .ok status
  | none => .error .unmatched

end StepStatus

/-- One action to perform. -/
structure Step where
  kind : ActionKind
  /-- The arguments, in order. -/
  arguments : List String := []
  /-- The outcome, if the step has one. -/
  result? : Option StepStatus := none
deriving DecidableEq, Repr

namespace Step

/-- The step with a success recorded for it. -/
def succeeded (step : Step) : Step :=
  { step with result? := some .success }

/-- The step with a failure recorded for it. -/
def failed (step : Step) : Step :=
  { step with result? := some .failed }

/-- The step without an outcome: what it asks for. -/
def unmarked (step : Step) : Step :=
  { step with result? := none }

@[simp]
theorem result?_succeeded (step : Step) :
    step.succeeded.result? = some .success :=
  rfl

@[simp]
theorem result?_failed (step : Step) : step.failed.result? = some .failed :=
  rfl

@[simp]
theorem unmarked_succeeded (step : Step) :
    step.succeeded.unmarked = step.unmarked :=
  rfl

@[simp]
theorem unmarked_failed (step : Step) : step.failed.unmarked = step.unmarked :=
  rfl

/-- Two steps ask for the same exactly if they have the same kind and the same
arguments. -/
theorem unmarked_eq_unmarked_iff (left right : Step) :
    left.unmarked = right.unmarked ↔
      left.kind = right.kind ∧ left.arguments = right.arguments := by
  simp [unmarked]

end Step

end Scenario
