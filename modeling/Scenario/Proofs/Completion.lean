import Scenario.Proofs.Barred

/-!
# Completed runs

A run is completed if it comes to its last step, and this gives a result.  All
steps have then succeeded, and what the run leaves is what its last step leaves,
and behind it the sink.
-/

namespace Scenario

variable {World : Type}

/-- All steps of a run have succeeded, and the run is completed unless its sink
has refused the document.  What the sink has answered and left is given. -/
structure EngineRun.Completes
    (run : EngineRun × World)
    (kept : Logged (Except PersistError Unit) × World)
    (total : Nat) : Prop where
  state_eq : run.1.engine.state = .completed
  results_eq :
    run.1.engine.document.steps.map Step.result? =
      List.replicate total (some .success)
  /-- A sink that refuses the document decides what is returned. -/
  result_eq :
    run.1.result =
      match kept.1.value with
      | .ok () => .ok .completed
      | .error refusal => .error (.persist refusal)
  world_eq : run.2 = kept.2

namespace Stage

variable
    {registry : Registry (StateM World)}
    {stage reached : Stage World}

/-- If the step at a stage gives a result, and no step is behind it, the run is
completed there. -/
theorem Reaches.completed
    {count : Nat}
    {result : String}
    {after : World}
    (reaches : stage.Reaches registry count reached)
    (last : reached.rest = [])
    (answered :
      (registry.ask reached.current.kind reached.current.arguments).run
        reached.world = (some (.ok result), after))
    (position : Nat) :
    (stage.record registry position).ending = .completed ∧
      stage.left registry = after := by
  have course :
      (Run.course registry [] (reached.current :: reached.rest)).run
          reached.world =
        ([{ step := reached.current, reply? := some (.ok result) }],
          after) := by
    rw [last, Run.course_run_singleton, Step.deliver_nil, answered]
  constructor
  · rcases reaches.told_eq position with ⟨turns, -, -, record⟩
    rw [record, Report.behind_eq, Stage.record, told, course, last]
    rfl
  · rw [reaches.left_eq, left, course]

end Stage

namespace Engine

/-- The first run of a document whose record is completed. -/
theorem run_fresh_completes
    (registry : Registry (StateM World))
    (sink : Sink (StateM World))
    (document : Document)
    (world : World)
    (completed : (record registry document world).ending = .completed) :
    let run := (Engine.run registry sink { document }).run world
    let left := ((Run.steps registry document.steps).run world).2
    let kept := (sink run.1.engine.document).run left
    EngineRun.Completes run kept document.size := by
  intro run left kept
  have persisted : (record registry document world).ending.IsPersisted := by
    rw [completed]
    trivial
  have balanced := record_balanced registry document world persisted
  have document_eq :
      run.1.engine.document = (record registry document world).document :=
    run_fresh_document registry sink document world
  have success :
      (record registry document world).success = document.size := by
    rw [balanced.success_eq, completed]
    rfl
  have failed : (record registry document world).failed = 0 := by
    have counted := balanced.success_add_failed
    omega
  exact {
    state_eq := by
      rw [run_fresh_state, completed]
      rfl
    results_eq := by
      rw [document_eq]
      dsimp only [Report.document]
      rw [balanced.results_eq, success, failed, List.replicate_zero,
        List.append_nil]
    result_eq := by
      dsimp only [kept]
      rw [document_eq, run_fresh_result, if_pos persisted, completed]
      dsimp only [left]
      cases
        ((sink (record registry document world).document).run
          ((Run.steps registry document.steps).run world).2).1.value <;> rfl
    world_eq := by
      dsimp only [kept]
      rw [document_eq, run_fresh_snd, if_pos persisted] }

/-- The first run over steps is completed if it comes to the last of them, and
this gives a result. -/
theorem run_fresh_completes_of_reaches
    {registry : Registry (StateM World)}
    {first : Step}
    {rest : List Step}
    {world after : World}
    {count : Nat}
    {reached : Stage World}
    {result : String}
    (reaches :
      Stage.Reaches registry { current := first, rest, world } count reached)
    (last : reached.rest = [])
    (answered :
      (registry.ask reached.current.kind reached.current.arguments).run
        reached.world = (some (.ok result), after))
    (sink : Sink (StateM World)) :
    let document : Document := { steps := first :: rest }
    let run := (Engine.run registry sink { document }).run world
    let kept := (sink run.1.engine.document).run after
    ((Run.steps registry document.steps).run world).2 = after ∧
      EngineRun.Completes run kept document.size := by
  intro document run kept
  rcases reaches.completed last answered 0 with ⟨ending, left⟩
  have leaves :
      ((Run.steps registry document.steps).run world).2 = after :=
    (Run.steps_run registry document.steps world).2.trans left
  refine ⟨leaves, ?_⟩
  have completes := run_fresh_completes registry sink document world ending
  dsimp only at completes
  rw [leaves] at completes
  exact completes

end Engine

end Scenario
