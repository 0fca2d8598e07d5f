import Scenario.Proofs.Approach
import Scenario.Proofs.FirstRun

/-!
# Runs that differ by one step

Two records may be the same but for one step that succeeded in one of them and
is missing in the other.  Then the two runs leave the same state, and documents
that differ by this step and by its place in the counts.  What they return has
the same step numbers, moved on by one, as long as their sinks answer alike.
-/

namespace Scenario

variable {World : Type}

/-! ## Records -/

namespace Report

/-- The report with a step put in that succeeded. -/
def insert (report : Report) (index : Nat) (step : Step) : Report :=
  { report with
    steps := report.steps.insertIdx index step.succeeded
    success := report.success + 1
    ending := report.ending.later 1 }

@[simp]
theorem insert_after
    (report : Report)
    (step inserted : Step)
    (log : List LogEvent)
    (index : Nat) :
    (report.after step log).insert (index + 1) inserted =
      (report.insert index inserted).after step log :=
  rfl

theorem insert_behind
    (report : Report)
    (turns : List Turn)
    (index : Nat)
    (inserted : Step) :
    (report.behind turns).insert (turns.length + index) inserted =
      (report.insert index inserted).behind turns := by
  induction turns with
  | nil => rw [List.length_nil, Nat.zero_add, behind_nil, behind_nil]
  | cons turn turns induction =>
    rw [List.length_cons, Nat.add_right_comm, behind_cons, behind_cons,
      insert_after, induction]

theorem insert_zero (report : Report) (step : Step) :
    report.insert 0 step = (report.later 1).after step [] :=
  rfl

end Report

/-- A turn put in behind another puts its step into the record, if both pass
and what passed before passes still. -/
theorem Run.tell_insert
    (position : Nat)
    {turn seen taken : Turn}
    (turns : List Turn)
    (current inserted next : Step)
    (rest : List Step)
    (same : seen.step = turn.step)
    {handed early late : List String}
    (passed : turn.verdict (some next.kind) = .passed handed)
    (seenPassed : seen.verdict (some inserted.kind) = .passed early)
    (takenPassed : taken.verdict (some next.kind) = .passed late) :
    (tell position (seen :: taken :: turns)
        (current :: inserted :: next :: rest)).unlogged =
      ((tell position (turn :: turns) (current :: next :: rest)).insert 1
        taken.step).unlogged := by
  simp only [tell, List.head?_cons, Option.map_some, passed, seenPassed,
    takenPassed, same]
  rw [Report.insert_after, Report.insert_zero]
  simp only [Report.unlogged_after, tell_later (position + 1) 1]

/-! ## Results moved on -/

/-- The outcome, with its step number moved on. -/
def Outcome.later (count : Nat) : Outcome → Outcome
  | completed => completed
  | stoppedAtFalseCondition step => stoppedAtFalseCondition (step + count)

/-- The error, with its step number moved on, if it has one. -/
def EngineError.later (count : Nat) : EngineError → EngineError
  | invalidAction step kind => invalidAction (step + count) kind
  | stepFailed step error => stepFailed (step + count) error
  | persist error => persist error
  | transition error => transition error

/-- The result, with its step number moved on, if it has one. -/
def EngineRun.resultLater
    (run : EngineRun)
    (count : Nat) :
    Except EngineError Outcome :=
  match run.result with
  | .ok outcome => .ok (outcome.later count)
  | .error error => .error (error.later count)

namespace Ending

@[simp]
theorem state_later (ending : Ending) (count : Nat) :
    (ending.later count).state = ending.state := by
  cases ending <;> rfl

@[simp]
theorem isPersisted_later (ending : Ending) (count : Nat) :
    (ending.later count).IsPersisted ↔ ending.IsPersisted := by
  cases ending <;> rfl

@[simp]
theorem error?_later (ending : Ending) (count : Nat) :
    (ending.later count).error? = ending.error? := by
  cases ending <;> rfl

@[simp]
theorem failedStep?_later (ending : Ending) (count : Nat) :
    (ending.later count).failedStep? = ending.failedStep?.map (· + count) := by
  cases ending <;> simp [later, failedStep?, Nat.add_right_comm]

theorem result_later (ending : Ending) (count : Nat) :
    (ending.later count).result =
      match ending.result with
      | .ok outcome => .ok (outcome.later count)
      | .error error => .error (error.later count) := by
  cases ending <;>
    simp [later, result, Outcome.later, EngineError.later, Nat.add_right_comm]

end Ending

/-! ## Runs -/

/-- The second run is the first with a step put in that succeeded. -/
structure EngineRun.Inserted
    (first second : EngineRun)
    (index : Nat)
    (step : Step) : Prop where
  state_eq : second.engine.state = first.engine.state
  steps_eq :
    second.engine.document.steps =
      first.engine.document.steps.insertIdx index step
  summary_eq :
    second.engine.document.summary =
      { first.engine.document.summary with
        total := first.engine.document.summary.total + 1
        success := first.engine.document.summary.success + 1
        failedStep? :=
          first.engine.document.summary.failedStep?.map (· + 1) }

namespace Engine

section

variable
    {registry : Registry (StateM World)}
    {first second : Document}
    {world : World}
    {index : Nat}
    {step : Step}

/-- Runs of which one record has a step put in differ by this step. -/
theorem run_fresh_inserted
    (sink : Sink (StateM World))
    (inside : index ≤ first.size)
    (inserted :
      (record registry second world).unlogged =
        ((record registry first world).insert index step).unlogged) :
    ((run registry sink { document := first }).run world).1.Inserted
      ((run registry sink { document := second }).run world).1
      index step.succeeded := by
  have firstDocument := run_fresh_document registry sink first world
  have firstState := run_fresh_state registry sink first world
  have secondDocument := run_fresh_document registry sink second world
  have secondState := run_fresh_state registry sink second world
  have size : (record registry first world).steps.length = first.size :=
    (Run.course_orderly registry [] first.steps world).length_steps_tell 0
  have ending := congrArg Report.ending inserted
  have document := congrArg Report.document inserted
  rw [Report.ending_unlogged, Report.ending_unlogged] at ending
  rw [Report.document_unlogged, Report.document_unlogged] at document
  exact {
    state_eq := by
      rw [firstState, secondState, ending]
      exact Ending.state_later _ 1
    steps_eq := by
      rw [firstDocument, secondDocument, document]
      rfl
    summary_eq := by
      rw [firstDocument, secondDocument, document]
      simp [Report.document, Report.summary, Report.insert, size,
        List.length_insertIdx, inside] }

/-- If their sinks answer alike, such runs return the same, moved on. -/
theorem run_fresh_result_inserted
    (sink : Sink (StateM World))
    (inserted :
      (record registry second world).unlogged =
        ((record registry first world).insert index step).unlogged)
    (alike :
      ((sink (record registry second world).document).run
          ((Run.steps registry second.steps).run world).2).1.value =
        ((sink (record registry first world).document).run
          ((Run.steps registry first.steps).run world).2).1.value) :
    ((run registry sink { document := second }).run world).1.result =
      ((run registry sink { document := first }).run world).1.resultLater
        1 := by
  have ending := congrArg Report.ending inserted
  rw [Report.ending_unlogged, Report.ending_unlogged] at ending
  replace ending :
      (record registry second world).ending =
        (record registry first world).ending.later 1 :=
    ending
  unfold EngineRun.resultLater
  rw [run_fresh_result, run_fresh_result]
  rw [ending, alike]
  simp only [Ending.isPersisted_later]
  split
  · unfold Ending.returned
    rw [Ending.result_later]
    split
    · rfl
    · rfl
  · rw [Ending.result_later]

end

end Engine

end Scenario
