import Scenario.Proofs.Journal

/-!
# What a run gives to its sink

A run does not know its sink until it is over.  Then it gives it the document
that it leaves, once, unless it met a kind without an action; and a refusal
takes the place of whatever the steps have decided.
-/

namespace Scenario

variable {World : Type}

/-- What a run returns is what its steps have decided, or the refusal of the
one document that it has given to its sink behind all calls. -/
structure EngineRun.PersistsOnce
    (run : EngineRun)
    (journal : Journal World)
    (decided : Except EngineError Outcome) : Prop where
  persisted :
    (∀ step kind, run.result ≠ .error (.invalidAction step kind)) →
      ∃ answer,
        journal.events =
          journal.calls.map .called ++
            [.persisted run.engine.document answer]
  unpersisted :
    (∃ step kind, run.result = .error (.invalidAction step kind)) →
      journal.events = journal.calls.map .called
  refused_iff :
    ∀ refusal,
      run.result = .error (.persist refusal) ↔
        .persisted run.engine.document (.error refusal) ∈ journal.events
  result_eq :
    (∀ refusal, run.result ≠ .error (.persist refusal)) →
      run.result = decided

namespace Ending

theorem result_ne_persist (ending : Ending) (refusal : PersistError) :
    ending.result ≠ .error (.persist refusal) := by
  cases ending <;> simp [result]

theorem returned_eq_persist_iff
    (ending : Ending)
    (answer : Except PersistError Unit)
    (refusal : PersistError) :
    ending.returned answer = .error (.persist refusal) ↔
      answer = .error refusal := by
  cases answer with
  | ok done => simp [returned, ending.result_ne_persist]
  | error error => simp [returned]

/-- The document is kept from the sink exactly by a kind without an action. -/
theorem not_isPersisted_iff (ending : Ending) :
    ¬ending.IsPersisted ↔
      ∃ position kind, ending = .unregistered position kind := by
  cases ending <;> simp [IsPersisted]

theorem returned_ne_invalidAction
    {ending : Ending}
    (persisted : ending.IsPersisted)
    (answer : Except PersistError Unit)
    (step : Nat)
    (kind : ActionKind) :
    ending.returned answer ≠ .error (.invalidAction step kind) := by
  cases answer with
  | ok done =>
    cases ending with
    | unregistered position missing => exact persisted.elim
    | _ => simp [returned, result]
  | error refusal => simp [returned]

end Ending

/-- A run that returns what its record and the answer of its sink say keeps to
the rule. -/
theorem EngineRun.persistsOnce_of_report
    {run : EngineRun}
    {journal : Journal World}
    {report : Report}
    {answer : Except PersistError Unit}
    (document : run.engine.document = report.document)
    (result :
      run.result =
        if report.ending.IsPersisted then report.ending.returned answer
        else report.ending.result)
    (events :
      journal.events =
        journal.calls.map .called ++
          if report.ending.IsPersisted then
            [.persisted report.document answer]
          else []) :
    run.PersistsOnce journal report.ending.result := by
  rw [← document] at events
  by_cases persisted : report.ending.IsPersisted
  · rw [if_pos persisted] at result events
    exact {
      persisted := fun _ => ⟨answer, events⟩
      unpersisted := by
        rintro ⟨step, kind, abandoned⟩
        rw [result] at abandoned
        exact (Ending.returned_ne_invalidAction persisted _ _ _ abandoned).elim
      refused_iff := by
        intro refusal
        rw [result, events, Ending.returned_eq_persist_iff]
        simp [eq_comm]
      result_eq := by
        intro accepted
        rw [result] at accepted ⊢
        cases answer with
        | ok done => rfl
        | error refusal => exact (accepted refusal rfl).elim }
  · rw [if_neg persisted] at result events
    rw [List.append_nil] at events
    rcases report.ending.not_isPersisted_iff.mp persisted with
      ⟨position, kind, ending⟩
    exact {
      persisted := by
        intro registered
        rw [ending] at result
        exact (registered _ _ result).elim
      unpersisted := fun _ => events
      refused_iff := by
        intro refusal
        rw [result, events]
        simp [Ending.result_ne_persist]
      result_eq := fun _ => result }

namespace Engine

/-- The first run of a document, whatever its actions and its sink do, returns
what its steps have decided, or the refusal of the one document that it has
given to its sink. -/
theorem run_fresh_persistsOnce
    (registry : Registry (StateM World))
    (sink : Sink (StateM World))
    (document : Document)
    (world : World) :
    let journal :=
      ((run registry.journaled sink.journaled { document }).run { world }).2
    let decided :=
      ((Run.steps registry document.steps).run world).1.ending.result
    ((run registry sink { document }).run world).1.PersistsOnce journal
      decided := by
  intro journal decided
  have after := (Run.steps_run registry document.steps world).2
  have calls : journal.calls = _ :=
    run_fresh_calls registry sink document world
  have events : journal.events = _ :=
    run_fresh_events registry sink document { world }
  dsimp only at events
  rw [List.nil_append, ← calls, ← after] at events
  dsimp only [decided]
  rw [ending_steps_run]
  exact EngineRun.persistsOnce_of_report
    (run_fresh_document registry sink document world)
    (run_fresh_result registry sink document world)
    events

/-- Neither the calls of a first run nor what it leaves depend on the sink, and
every sink is given the document once. -/
theorem run_fresh_persists_once
    (registry : Registry (StateM World))
    (one other : Sink (StateM World))
    (document : Document)
    (world : World) :
    let run (sink : Sink (StateM World)) :=
      ((Engine.run registry sink { document }).run world).1
    let journal (sink : Sink (StateM World)) :=
      ((Engine.run registry.journaled sink.journaled { document }).run
        { world }).2
    let decided :=
      ((Run.steps registry document.steps).run world).1.ending.result
    (journal one).calls = (journal other).calls ∧
      (run one).engine.document = (run other).engine.document ∧
      (run one).engine.state = (run other).engine.state ∧
      (run one).PersistsOnce (journal one) decided ∧
      (run other).PersistsOnce (journal other) decided := by
  intro run journal decided
  have calls (sink : Sink (StateM World)) : (journal sink).calls = _ :=
    run_fresh_calls registry sink document world
  have once (sink : Sink (StateM World)) :
      (run sink).PersistsOnce (journal sink) decided :=
    run_fresh_persistsOnce registry sink document world
  have left (sink : Sink (StateM World)) : (run sink).engine.document = _ :=
    run_fresh_document registry sink document world
  have state (sink : Sink (StateM World)) : (run sink).engine.state = _ :=
    run_fresh_state registry sink document world
  exact ⟨(calls one).trans (calls other).symm,
    (left one).trans (left other).symm,
    (state one).trans (state other).symm, once one, once other⟩

end Engine

end Scenario
