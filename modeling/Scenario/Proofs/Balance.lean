import Scenario.Proofs.FirstRun

/-!
# The balance of a first run

A run marks its steps one by one and counts the marks as it goes; where it
ended is told separately, by a step number, an error and a state.  This module
proves that all of these agree.  Unless the run met a kind without an action,
its successes are the first steps and its failures all others, and the
summary, the state and the returned value point at the same place.
-/

namespace Scenario

variable {World : Type}

/-- A record over `total` steps counts its successes up to its ending, and
they stand in front of its failures. -/
structure Report.Balanced (report : Report) (total : Nat) : Prop where
  persisted : report.ending.IsPersisted
  length_eq : report.steps.length = total
  results_eq :
    report.steps.map Step.result? =
      List.replicate report.success (some .success) ++
        List.replicate report.failed (some .failed)
  success_eq : report.success = report.ending.succeeded total

namespace Report

theorem Balanced.success_add_failed
    {report : Report}
    {total : Nat}
    (balanced : report.Balanced total) :
    report.success + report.failed = total := by
  have lengths := congrArg List.length balanced.results_eq
  simpa [balanced.length_eq] using lengths.symm

/-- The failed step that a record names is the one behind its successes. -/
theorem Balanced.failedStep?_eq
    {report : Report}
    {total : Nat}
    (balanced : report.Balanced total) :
    if report.ending.state = .completed then
      report.success = total ∧
        report.summary.failedStep? = none ∧
        report.summary.error? = none ∧
        report.summary.errorKind? = none
    else
      report.summary.failedStep? = some (report.success + 1) ∧
        report.summary.error?.isSome ∧
        report.summary.errorKind?.isSome := by
  have persisted := balanced.persisted
  have succeeded := balanced.success_eq
  cases ending : report.ending with
  | completed =>
    rw [ending] at succeeded
    simp [summary, ending, Ending.state, Ending.failedStep?, Ending.error?,
      succeeded, Ending.succeeded]
  | falseCondition position =>
    rw [ending] at succeeded
    simp [summary, ending, Ending.state, Ending.failedStep?, Ending.error?,
      succeeded, Ending.succeeded]
  | failed position error =>
    rw [ending] at succeeded
    simp [summary, ending, Ending.state, Ending.failedStep?, Ending.error?,
      succeeded, Ending.succeeded]
  | unregistered position kind =>
    rw [ending] at persisted
    exact persisted.elim

/-- The result of a record names the step and the error of its summary. -/
theorem Balanced.result_agrees
    {report : Report}
    {total : Nat}
    (balanced : report.Balanced total) :
    match report.ending.result with
    | .ok .completed => report.ending.state = .completed
    | .ok (.stoppedAtFalseCondition step) =>
      step = report.success ∧
        report.summary.failedStep? = some (step + 1) ∧
        report.summary.error? = some "false condition" ∧
        report.summary.errorKind? = some .falseCondition
    | .error (.stepFailed step error) =>
      step = report.success + 1 ∧
        report.summary.failedStep? = some step ∧
        report.summary.error? = some error.message ∧
        report.summary.errorKind? = some error.kind
    | .error (.invalidAction ..) => False
    | .error (.persist _) => False
    | .error (.transition _) => False := by
  have persisted := balanced.persisted
  have succeeded := balanced.success_eq
  cases ending : report.ending with
  | completed => exact rfl
  | falseCondition position =>
    rw [ending] at succeeded
    have failedStep : report.summary.failedStep? = some (position + 2) := by
      rw [summary, ending]
      rfl
    have message : report.summary.error? = some "false condition" := by
      rw [summary, ending]
      rfl
    have kind : report.summary.errorKind? = some .falseCondition := by
      rw [summary, ending]
      rfl
    exact ⟨succeeded.symm, failedStep, message, kind⟩
  | failed position error =>
    rw [ending] at succeeded
    have failedStep : report.summary.failedStep? = some (position + 1) := by
      rw [summary, ending]
      rfl
    have message : report.summary.error? = some error.message := by
      rw [summary, ending]
      rfl
    have kind : report.summary.errorKind? = some error.kind := by
      rw [summary, ending]
      rfl
    exact ⟨congrArg (· + 1) succeeded.symm, failedStep, message, kind⟩
  | unregistered position kind =>
    rw [ending] at persisted
    exact persisted

end Report

/-- The marks, the summary, the state and the result of a run over `total`
steps agree that exactly the first `count` steps succeeded.  What the sink
answered to the document is given. -/
structure EngineRun.Agrees
    (run : EngineRun)
    (answer : Except PersistError Unit)
    (total count : Nat) : Prop where
  count_le : count ≤ total
  results_eq :
    run.engine.document.steps.map Step.result? =
      List.replicate count (some .success) ++
        List.replicate (total - count) (some .failed)
  total_eq : run.engine.document.summary.total = total
  success_eq : run.engine.document.summary.success = count
  failed_eq : run.engine.document.summary.failed = total - count
  balanced : run.engine.document.summary.Balanced
  /-- An error is on record exactly if the run has not been completed. -/
  error_iff :
    if run.engine.state = .completed then
      count = total ∧
        run.engine.document.summary.failedStep? = none ∧
        run.engine.document.summary.error? = none ∧
        run.engine.document.summary.errorKind? = none
    else
      run.engine.document.summary.failedStep? = some (count + 1) ∧
        run.engine.document.summary.error?.isSome ∧
        run.engine.document.summary.errorKind?.isSome
  /-- What is returned agrees with the document, unless the sink has refused
  the document. -/
  result_agrees :
    match answer with
    | .error refusal => run.result = .error (.persist refusal)
    | .ok () =>
      match run.result with
      | .ok .completed => run.engine.state = .completed
      | .ok (.stoppedAtFalseCondition step) =>
        step = count ∧
          run.engine.document.summary.failedStep? = some (step + 1) ∧
          run.engine.document.summary.error? = some "false condition" ∧
          run.engine.document.summary.errorKind? = some .falseCondition
      | .error (.stepFailed step error) =>
        step = count + 1 ∧
          run.engine.document.summary.failedStep? = some step ∧
          run.engine.document.summary.error? = some error.message ∧
          run.engine.document.summary.errorKind? = some error.kind
      | .error (.invalidAction ..) => False
      | .error (.persist _) => False
      | .error (.transition _) => False

namespace Engine

theorem record_balanced
    (registry : Registry (StateM World))
    (document : Document)
    (world : World)
    (persisted : (record registry document world).ending.IsPersisted) :
    (record registry document world).Balanced document.size := by
  have orderly := Run.course_orderly registry [] document.steps world
  have successes := orderly.success_tell 0
  rw [Nat.zero_add, Nat.zero_add] at successes
  exact {
    persisted
    length_eq := orderly.length_steps_tell 0
    results_eq := orderly.results_tell 0 persisted
    success_eq := successes }

/-- The first run of a document, whatever its actions and its sink do, agrees
with itself, unless it met a kind without an action. -/
theorem run_fresh_agrees
    (registry : Registry (StateM World))
    (sink : Sink (StateM World))
    (document : Document)
    (world : World)
    (registered :
      ∀ step kind,
        ((run registry sink { document }).run world).1.result ≠
          .error (.invalidAction step kind)) :
    let run := ((run registry sink { document }).run world).1
    let after := ((Run.steps registry document.steps).run world).2
    let answer := ((sink run.engine.document).run after).1.value
    ∃ count, run.Agrees answer document.size count := by
  intro run after answer
  -- The record stands for the run: they differ in the log alone.
  have left : run.engine.document = (record registry document world).document :=
    run_fresh_document registry sink document world
  have state := run_fresh_state registry sink document world
  have persisted :=
    run_fresh_isPersisted registry sink document world registered
  have balanced := record_balanced registry document world persisted
  have counted := balanced.success_add_failed
  have failed :
      document.size - (record registry document world).success =
        (record registry document world).failed := by
    omega
  have result :
      run.result =
        (record registry document world).ending.returned answer := by
    have decided := run_fresh_result registry sink document world
    dsimp only at decided
    rw [if_pos persisted, ← left] at decided
    exact decided
  refine ⟨(record registry document world).success, {
    count_le := by omega
    results_eq := by
      rw [left, failed]
      exact balanced.results_eq
    total_eq := by
      rw [left]
      exact balanced.length_eq
    success_eq := by
      rw [left]
      rfl
    failed_eq := by
      rw [left, failed]
      rfl
    balanced := by
      rw [left]
      exact counted.trans balanced.length_eq.symm
    error_iff := by
      rw [left, state]
      exact balanced.failedStep?_eq
    result_agrees := ?_ }⟩
  cases answered : answer with
  | error refusal =>
    rw [answered] at result
    exact result
  | ok done =>
    rw [answered] at result
    rw [result, left, state]
    exact balanced.result_agrees

/-- With two calls to spend on four steps, a run agrees with itself that the
first two have succeeded. -/
theorem run_fresh_agrees_budgeted :
    let document : Document := {
      steps := [
        { kind := .create, arguments := ["a.txt"] },
        { kind := .write, arguments := ["one line"] },
        { kind := .rename, arguments := ["b.txt"] },
        { kind := .remove }] }
    let run :=
      ((run .budgeted Sink.accepting { document }).run 2).1
    (∀ step kind, run.result ≠ .error (.invalidAction step kind)) ∧
      ∃ count, run.Agrees (.ok ()) document.size count := by
  intro document run
  have result : run.result = .error (.stepFailed 3 (.notFound .rename "")) :=
    (run_fresh_result .budgeted Sink.accepting document 2).trans rfl
  have registered :
      ∀ step kind, run.result ≠ .error (.invalidAction step kind) := by
    intro step kind unanswered
    rw [result] at unanswered
    cases unanswered
  refine ⟨registered, ?_⟩
  exact run_fresh_agrees .budgeted Sink.accepting document 2 registered

end Engine

end Scenario
