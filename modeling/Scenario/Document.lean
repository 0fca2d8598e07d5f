import Scenario.Step

/-!
# Documents

A document is an ordered list of steps together with a summary of their
outcomes.  The same shape serves as input and as output: a run takes a
document without results and leaves one that carries them, so a document that
carries a result has been run before.
-/

namespace Scenario

/-- What kind of error ended a run. -/
inductive ErrorKind where
  | falseCondition
  | arity
  | notFound
  | invalidTimestamp
  | io
  | invalidAction
deriving DecidableEq, Repr

/-- The spelling of a kind of error. -/
def ErrorKind.name : ErrorKind → String
  | falseCondition => "false_condition"
  | arity => "arity"
  | notFound => "not_found"
  | invalidTimestamp => "invalid_timestamp"
  | io => "io"
  | invalidAction => "invalid_action"

/-- The outcome of a run as a whole. -/
structure Summary where
  total : Nat := 0
  success : Nat := 0
  failed : Nat := 0
  /-- The number, counted from one, of the first step that failed. -/
  failedStep? : Option Nat := none
  /-- The text of the error that ended the run. -/
  error? : Option String := none
  /-- The kind of that error.  It is not written with the document. -/
  errorKind? : Option ErrorKind := none
deriving DecidableEq, Repr

namespace Summary

/-- Every step is accounted for. -/
def Balanced (summary : Summary) : Prop :=
  summary.success + summary.failed = summary.total

instance (summary : Summary) : Decidable summary.Balanced :=
  inferInstanceAs (Decidable (_ = _))

end Summary

/-- A list of steps and the summary of their outcomes. -/
structure Document where
  steps : List Step
  summary : Summary := {}
deriving DecidableEq, Repr

namespace Document

/-- No step of the document carries a result. -/
def Unprocessed (document : Document) : Prop :=
  ∀ step ∈ document.steps, step.result? = none

instance (document : Document) : Decidable document.Unprocessed :=
  inferInstanceAs (Decidable (∀ _ ∈ _, _))

/-- The number of steps. -/
def size (document : Document) : Nat :=
  document.steps.length

/-- The document has no steps. -/
def isEmpty (document : Document) : Bool :=
  document.steps.isEmpty

end Document

end Scenario
