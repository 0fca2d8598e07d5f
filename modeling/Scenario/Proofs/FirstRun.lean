import Scenario.Engine
import Scenario.Proofs.Order

/-!
# The first run of an engine

An engine that has not run yet goes through the course of its steps, keeps the
record of it as its document, and gives the document to its sink unless the
record ends at a kind without an action.  The result of the run is decided by
that ending, or by a sink that refuses the document.

The number of turns that the run took can be read off what it leaves.
-/

namespace Scenario

variable {World : Type}

/-- What a run returns if the sink gives this answer to its document. -/
def Ending.returned
    (ending : Ending) :
    Except PersistError Unit → Except EngineError Outcome
  | .ok () => ending.result
  | .error refusal => .error (.persist refusal)

namespace Engine

/-- The record that the first run of a document leaves in its engine. -/
def record
    (registry : Registry (StateM World))
    (document : Document)
    (world : World) :
    Report :=
  Run.tell 0
    ((Run.course registry [] document.steps).run world).1 document.steps

/-- The run of the steps ends as the record does. -/
theorem ending_steps_run
    (registry : Registry (StateM World))
    (document : Document)
    (world : World) :
    ((Run.steps registry document.steps).run world).1.ending =
      (record registry document world).ending := by
  have told := (Run.steps_run registry document.steps world).1
  have ending := congrArg Report.ending told
  rw [Report.ending_unlogged, Report.ending_unlogged] at ending
  exact ending

/-- The run of the steps leaves the document that the record does. -/
theorem document_steps_run
    (registry : Registry (StateM World))
    (document : Document)
    (world : World) :
    ((Run.steps registry document.steps).run world).1.document =
      (record registry document world).document := by
  have told := (Run.steps_run registry document.steps world).1
  have left := congrArg Report.document told
  rw [Report.document_unlogged, Report.document_unlogged] at left
  exact left

theorem conclude_run
    (sink : Sink (StateM World))
    (report : Report)
    (world : World) :
    let engine : Engine := {
      document := report.document
      tracker := { state := report.ending.state } }
    ∃ log,
      (conclude sink { state := .running } report).run world =
        if report.ending.IsPersisted then
          let kept := (sink report.document).run world
          ({ result := report.ending.returned kept.1.value, engine, log },
            kept.2)
        else
          ({ result := report.ending.result, engine, log }, world) := by
  simp only [conclude, RunTracker.finish, Ending.state_isFinal, and_self,
    if_true]
  by_cases persisted : report.ending.IsPersisted
  · simp only [persisted, if_true]
    exact ⟨_, rfl⟩
  · simp only [persisted, if_false]
    exact ⟨_, rfl⟩

/-- The first run of an engine, in terms of the course of its steps. -/
theorem run_fresh
    (registry : Registry (StateM World))
    (sink : Sink (StateM World))
    (document : Document)
    (world : World) :
    let report := record registry document world
    let after := ((Run.course registry [] document.steps).run world).2
    let engine : Engine := {
      document := report.document
      tracker := { state := report.ending.state } }
    ∃ log,
      (run registry sink { document }).run world =
        if report.ending.IsPersisted then
          let kept := (sink report.document).run after
          ({ result := report.ending.returned kept.1.value, engine, log },
            kept.2)
        else
          ({ result := report.ending.result, engine, log }, after) := by
  rcases
      conclude_run sink ((Run.steps registry document.steps).run world).1
        ((Run.steps registry document.steps).run world).2 with
    ⟨log, concluded⟩
  have started :
      (run registry sink { document }).run world =
        (conclude sink { state := .running }
          ((Run.steps registry document.steps).run world).1).run
            ((Run.steps registry document.steps).run world).2 :=
    rfl
  refine ⟨log, ?_⟩
  rw [started, concluded, ending_steps_run, document_steps_run,
    (Run.steps_run registry document.steps world).2]

/-- The document that the first run leaves does not depend on the sink. -/
theorem run_fresh_document
    (registry : Registry (StateM World))
    (sink : Sink (StateM World))
    (document : Document)
    (world : World) :
    ((run registry sink { document }).run world).1.engine.document =
      (record registry document world).document := by
  rcases run_fresh registry sink document world with ⟨log, fresh⟩
  rw [fresh]
  split <;> rfl

theorem run_fresh_steps
    (registry : Registry (StateM World))
    (sink : Sink (StateM World))
    (document : Document)
    (world : World) :
    ((run registry sink { document }).run world).1.engine.document.steps =
      (record registry document world).steps :=
  congrArg Document.steps (run_fresh_document registry sink document world)

theorem run_fresh_state
    (registry : Registry (StateM World))
    (sink : Sink (StateM World))
    (document : Document)
    (world : World) :
    ((run registry sink { document }).run world).1.engine.state =
      (record registry document world).ending.state := by
  rcases run_fresh registry sink document world with ⟨log, fresh⟩
  rw [fresh]
  split <;> rfl

/-- The ending decides the result, unless the sink refuses the document in the
world that the steps have left. -/
theorem run_fresh_result
    (registry : Registry (StateM World))
    (sink : Sink (StateM World))
    (document : Document)
    (world : World) :
    let report := record registry document world
    let after := ((Run.steps registry document.steps).run world).2
    ((run registry sink { document }).run world).1.result =
      if report.ending.IsPersisted then
        report.ending.returned ((sink report.document).run after).1.value
      else
        report.ending.result := by
  rcases run_fresh registry sink document world with ⟨log, fresh⟩
  simp only [fresh, (Run.steps_run registry document.steps world).2]
  split <;> rfl

/-- Behind its steps a first run changes the world by its sink alone. -/
theorem run_fresh_snd
    (registry : Registry (StateM World))
    (sink : Sink (StateM World))
    (document : Document)
    (world : World) :
    let report := record registry document world
    let after := ((Run.steps registry document.steps).run world).2
    ((run registry sink { document }).run world).2 =
      if report.ending.IsPersisted then ((sink report.document).run after).2
      else after := by
  rcases run_fresh registry sink document world with ⟨log, fresh⟩
  simp only [fresh, (Run.steps_run registry document.steps world).2]
  split <;> rfl

theorem run_fresh_refused
    (registry : Registry (StateM World))
    (sink : Sink (StateM World))
    (document : Document)
    (world : World) :
    let report := record registry document world
    let result := ((run registry sink { document }).run world).1.result
    result = report.ending.result ∨
      report.ending.IsPersisted ∧
        ∃ error, result = .error (.persist error) := by
  rw [run_fresh_result]
  split
  · rename_i persisted
    unfold Ending.returned
    split
    · exact Or.inl rfl
    · exact Or.inr ⟨persisted, _, rfl⟩
  · exact Or.inl rfl

/-- The document is given to the sink unless a kind without an action is
returned. -/
theorem run_fresh_isPersisted
    (registry : Registry (StateM World))
    (sink : Sink (StateM World))
    (document : Document)
    (world : World)
    (registered :
      ∀ step kind,
        ((run registry sink { document }).run world).1.result ≠
          .error (.invalidAction step kind)) :
    (record registry document world).ending.IsPersisted := by
  rcases run_fresh_refused registry sink document world with
    result | ⟨persisted, -⟩
  · revert result
    cases (record registry document world).ending with
    | completed => exact fun _ => trivial
    | falseCondition position => exact fun _ => trivial
    | failed position error => exact fun _ => trivial
    | unregistered position kind =>
      exact fun result => (registered _ _ result).elim
  · exact persisted

end Engine

/-! ## The number of turns -/

/-- The number of steps whose turn came in a first run, read off what the run
has left. -/
def EngineRun.reached (run : EngineRun) : Nat :=
  match run.result with
  | .error (.invalidAction step _) => step
  | _ =>
    match run.engine.document.summary.failedStep? with
    | none => run.engine.document.size
    | some step =>
      if run.engine.state = .stoppedAtFalseCondition then step - 1 else step

namespace Engine

/-- What a first run leaves tells the ending of its record. -/
theorem reached_eq_reached_ending
    {run : EngineRun}
    {report : Report}
    (document : run.engine.document = report.document)
    (state : run.engine.state = report.ending.state)
    (result :
      run.result = report.ending.result ∨
        report.ending.IsPersisted ∧
          ∃ error, run.result = .error (.persist error)) :
    run.reached = report.ending.reached report.steps.length := by
  have failedStep :
      run.engine.document.summary.failedStep? =
        report.ending.failedStep? := by
    rw [document]
    rfl
  have size : run.engine.document.size = report.steps.length := by
    rw [document]
    rfl
  unfold EngineRun.reached
  rw [failedStep, size, state]
  cases ending : report.ending with
  | completed =>
    rw [ending] at result
    rcases result with result | ⟨-, error, result⟩ <;> rw [result] <;> rfl
  | falseCondition position =>
    rw [ending] at result
    rcases result with result | ⟨-, error, result⟩ <;> rw [result] <;> rfl
  | failed position error =>
    rw [ending] at result
    rcases result with result | ⟨-, error, result⟩ <;> rw [result] <;> rfl
  | unregistered position kind =>
    rw [ending] at result
    rcases result with result | ⟨persisted, -⟩
    · rw [result]
      rfl
    · exact persisted.elim

/-- A first run reaches as many steps as its course has turns. -/
theorem run_fresh_reached
    (registry : Registry (StateM World))
    (sink : Sink (StateM World))
    (document : Document)
    (world : World) :
    ((run registry sink { document }).run world).1.reached =
      ((Run.course registry [] document.steps).run world).1.length := by
  have orderly := Run.course_orderly registry [] document.steps world
  have reached := orderly.reached_tell 0
  rw [reached_eq_reached_ending
    (run_fresh_document registry sink document world)
    (run_fresh_state registry sink document world)
    (run_fresh_refused registry sink document world)]
  rw [Nat.zero_add, Nat.zero_add] at reached
  rw [record, orderly.length_steps_tell]
  exact reached

end Engine

/-! ## A budget of calls -/

/-- The registry in which only so many calls succeed as the world says.  Each
of them gives the name of its kind, and all later ones find nothing. -/
def Registry.budgeted : Registry (StateM Nat) where
  find? kind :=
    if kind = .unknown then none
    else some fun _ budget =>
      match budget with
      | 0 => ({ value := .error (.notFound kind "") }, 0)
      | budget + 1 => ({ value := .ok kind.name }, budget)

/-- The sink that keeps every document, and does nothing else. -/
def Sink.accepting : Sink (StateM World) :=
  fun _ => pure { value := .ok () }

end Scenario
