import Scenario.Proofs.Balance
import Scenario.Proofs.Unregistered

/-!
# Runs that cannot hand on

A step may have given its result, and yet nothing can be handed on from it,
since the change time that the condition behind it needs is not found.  The
run then fails at this step: the step is marked as failed although its action
has done its work, and what it has done stays.
-/

namespace Scenario

variable {World : Type}

/-- A run over a document has failed at the step at a position, and the sink
has given this answer to what the run has left. -/
structure EngineRun.FailsAt
    (run : EngineRun)
    (answer : Except PersistError Unit)
    (document : Document)
    (position : Nat)
    (error : ActionError) : Prop where
  /-- The turn of the step was the last. -/
  reached_eq : run.reached = position + 1
  state_eq : run.engine.state = .stoppedAtFailure
  results_eq :
    run.engine.document.steps.map Step.result? =
      List.replicate position (some .success) ++
        List.replicate (document.size - position) (some .failed)
  summary_eq :
    run.engine.document.summary = {
      total := document.size
      success := position
      failed := document.size - position
      failedStep? := some (position + 1)
      error? := some error.message
      errorKind? := some error.kind }
  result_eq :
    run.result =
      match answer with
      | .ok () => .error (.stepFailed (position + 1) error)
      | .error refusal => .error (.persist refusal)

namespace Stage

variable
    {registry : Registry (StateM World)}
    {stage : Stage World}

/-- The world that the turns of a run from a stage on leave. -/
def left (registry : Registry (StateM World)) (stage : Stage World) : World :=
  ((Run.course registry [] (stage.current :: stage.rest)).run stage.world).2

section

variable
    {next : Step}
    {rest : List Step}
    {result : String}
    {after : World}
    (following : stage.rest = next :: rest)
    (answered :
      (registry.ask stage.current.kind stage.current.arguments).run
        stage.world = (some (.ok result), after))

include following answered

theorem left_ahead
    {forwarded : List String}
    (handed :
      (Run.cross registry stage.current result next.kind after).handed =
        .ok forwarded) :
    let crossing := Run.cross registry stage.current result next.kind after
    stage.left registry =
      (ahead next rest forwarded crossing.world).left registry := by
  unfold left ahead
  rw [following, Run.course_run_cross, Step.deliver_nil, answered]
  dsimp only
  rw [handed, Run.course_deliver]

theorem left_barred
    {obstacle : Obstacle}
    (barred :
      (Run.cross registry stage.current result next.kind after).handed =
        .error obstacle) :
    stage.left registry =
      (Run.cross registry stage.current result next.kind after).world := by
  unfold left
  rw [following, Run.course_run_cross, Step.deliver_nil, answered]
  dsimp only
  rw [barred]

end

/-- A run leaves the world that it leaves from every stage that it comes to. -/
theorem Reaches.left_eq
    {count : Nat}
    {reached : Stage World}
    (reaches : stage.Reaches registry count reached) :
    stage.left registry = reached.left registry := by
  induction reaches with
  | here => rfl
  | step following answered handed behind induction =>
    rw [left_ahead following answered handed, induction]

/-- The stage behind one that hands arguments on has the next turn. -/
theorem Reaches.getElem?_told_ahead
    {count : Nat}
    {reached : Stage World}
    (reaches : stage.Reaches registry count reached)
    {next : Step}
    {rest : List Step}
    {result : String}
    {after : World}
    {forwarded : List String}
    (following : reached.rest = next :: rest)
    (answered :
      (registry.ask reached.current.kind reached.current.arguments).run
        reached.world = (some (.ok result), after))
    (handed :
      (Run.cross registry reached.current result next.kind after).handed =
        .ok forwarded) :
    let called := next.deliver forwarded
    let crossing := Run.cross registry reached.current result next.kind after
    ∃ lookup?,
      (stage.told registry)[count + 1]? = some {
        step := called
        reply? :=
          ((registry.ask called.kind called.arguments).run crossing.world).1
        lookup? } := by
  intro called crossing
  rcases reaches.told_eq 0 with ⟨turns, length, told, -⟩
  rcases head?_told registry (ahead next rest forwarded crossing.world) with
    ⟨lookup?, head⟩
  refine ⟨lookup?, ?_⟩
  rw [told, told_ahead following answered handed,
    List.getElem?_append_right (by omega), length, Nat.add_sub_cancel_left,
    List.getElem?_cons_succ, ← List.head?_eq_getElem?]
  exact head

end Stage

namespace Engine

/-- A run whose record ends at a step that has failed fails at it. -/
theorem run_fresh_failsAt
    (registry : Registry (StateM World))
    (sink : Sink (StateM World))
    (document : Document)
    (world : World)
    {position : Nat}
    {error : ActionError}
    (ending :
      (record registry document world).ending = .failed position error) :
    let run := ((run registry sink { document }).run world).1
    let left := ((Run.steps registry document.steps).run world).2
    let answer := ((sink run.engine.document).run left).1.value
    run.FailsAt answer document position error := by
  intro run left answer
  have document_eq :
      run.engine.document = (record registry document world).document :=
    run_fresh_document registry sink document world
  have state : run.engine.state = _ :=
    run_fresh_state registry sink document world
  have decided : run.result = _ :=
    run_fresh_result registry sink document world
  have reached : run.reached = _ :=
    reached_eq_reached_ending document_eq state
      (run_fresh_refused registry sink document world)
  have persisted : (record registry document world).ending.IsPersisted := by
    rw [ending]
    trivial
  -- The marks and counts follow from the balance of the record.
  have balanced := record_balanced registry document world persisted
  have counted := balanced.success_add_failed
  have success : (record registry document world).success = position := by
    rw [balanced.success_eq, ending]
    rfl
  have failed :
      (record registry document world).failed = document.size - position := by
    omega
  rw [if_pos persisted, ← document_eq, ending] at decided
  rw [ending] at state reached
  exact {
    reached_eq := reached
    state_eq := state
    results_eq := by
      rw [document_eq, ← success, ← counted, Nat.add_sub_cancel_left]
      exact balanced.results_eq
    summary_eq := by
      rw [document_eq, ← failed, ← success, ← balanced.length_eq]
      simp only [Report.document, Report.summary, ending, success]
      rfl
    result_eq := by
      have returned :
          run.result = (Ending.failed position error).returned answer :=
        decided
      rw [returned]
      cases answer with
      | ok done => rfl
      | error refusal => rfl }

/-- A run fails at a step that has given a result, but cannot hand it on. -/
theorem ending_record_of_barred
    {registry : Registry (StateM World)}
    {document : Document}
    {first next : Step}
    {rest behind : List Step}
    {world after : World}
    {position : Nat}
    {stage : Stage World}
    {result : String}
    {error : ActionError}
    (steps : document.steps = first :: rest)
    (reaches :
      Stage.Reaches registry { current := first, rest, world } position stage)
    (following : stage.rest = next :: behind)
    (answered :
      (registry.ask stage.current.kind stage.current.arguments).run
        stage.world = (some (.ok result), after))
    (barred :
      (Run.cross registry stage.current result next.kind after).handed =
        .error (.failure error)) :
    (record registry document world).ending = .failed position error := by
  rcases Stage.told_barred following answered barred with ⟨-, stopped⟩
  rcases reaches.told_eq 0 with ⟨turns, -, -, record⟩
  rw [record_eq_of_steps_eq registry world steps, record, stopped,
    Report.behind_eq, Nat.zero_add]
  rfl

end Engine

end Scenario
