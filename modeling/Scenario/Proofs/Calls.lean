import Scenario.Proofs.Journal

/-!
# The calls of a first run

A run calls the action of each step whose turn comes, on the arguments that its
document then records for the step, and looks a change time up behind it
exactly if a condition follows a step of another kind.  It makes no other
calls, and none behind the step at which it ends.  A step is marked as
succeeded exactly if its own calls say so.
-/

namespace Scenario

variable {World : Type}

/-- The calls of a run are made turn by turn, as the steps that the run has
left ask for them. -/
structure Run.CallsInOrder
    (registry : Registry (StateM World))
    (left : List Step)
    (turns : List Turn)
    (calls : List Call) : Prop where
  /-- A turn makes the call of its step, then its look-up, and no others. -/
  calls_eq : calls = turns.flatMap Turn.calls
  /-- The step of a turn is called on the arguments that are left for it. -/
  performed :
    ∀ (position : Nat) (turn : Turn), turns[position]? = some turn →
      ∃ step : Step,
        left[position]? = some step ∧
          turn.step.kind = step.kind ∧ turn.step.arguments = step.arguments
  /-- The step of a turn is called unless it has no action. -/
  called :
    ∀ (position : Nat) (turn : Turn), turns[position]? = some turn →
      (turn.ownCall? = none ↔ registry.find? turn.step.kind = none)
  /-- A change time is looked up only behind a call that gave a result. -/
  looked_up :
    ∀ (position : Nat) (turn : Turn), turns[position]? = some turn →
      (turn.lookupCall?.isSome ↔
        (∃ result, turn.reply? = some (.ok result)) ∧
          turn.step.kind ≠ .cTime ∧
          left[position + 1]?.map Step.kind = some .condition ∧
          (registry.find? .cTime).isSome)
  /-- Only behind calls that all gave results does another turn come. -/
  went_on :
    ∀ (position : Nat) (turn : Turn), turns[position]? = some turn →
      position + 1 < turns.length →
        (∃ result, turn.reply? = some (.ok result)) ∧
          ∀ reply, turn.lookup? = some reply → ∃ stamp, reply = .ok stamp

namespace Turn

variable {registry : Registry (StateM World)}

theorem isSome_lookupCall?
    {current : Step}
    {next? : Option ActionKind}
    {turn : Turn}
    (regular : turn.Regular registry current next?) :
    turn.lookupCall?.isSome = turn.lookup?.isSome := by
  cases made : turn.lookup? with
  | none =>
    unfold lookupCall?
    split <;> simp [made]
  | some reply =>
    rcases verdict_of_lookup regular made with ⟨result, answered, -⟩
    simp [lookupCall?, answered, made]

end Turn

namespace Run

variable {registry : Registry (StateM World)}

theorem Orderly.map_kind_steps_tell
    {forwarded : List String}
    {list : List Step}
    {turns : List Turn}
    (orderly : Orderly registry forwarded list turns)
    (position : Nat) :
    (tell position turns list).steps.map Step.kind = list.map Step.kind := by
  induction orderly generalizing position with
  | done => rfl
  | passed regular verdict behind induction =>
    simp only [tell, verdict, Report.after, List.map_cons, induction,
      Step.succeeded, regular.step_eq, Step.deliver_kind]
  | conditionFalse regular verdict =>
    simp [tell, verdict, stopFalse, Step.succeeded, Step.failed,
      regular.step_eq, Function.comp_def]
  | stopped regular verdict =>
    rename_i obstacle
    cases obstacle with
    | failure error =>
      simp [tell, verdict, stop, Step.failed, regular.step_eq,
        Function.comp_def]
    | unregistered kind => simp [tell, verdict, stop, regular.step_eq]

/-- The calls of orderly turns agree with the record of them. -/
theorem Orderly.callsInOrder
    {forwarded : List String}
    {list : List Step}
    {turns : List Turn}
    (orderly : Orderly registry forwarded list turns)
    (position : Nat) :
    CallsInOrder registry (tell position turns list).steps turns
      (turns.flatMap Turn.calls) where
  calls_eq := rfl
  performed := by
    intro index turn here
    have recorded := orderly.unmarked_getElem?_tell position here
    rw [Option.map_eq_some_iff] at recorded
    rcases recorded with ⟨step, left, unmarked⟩
    rw [Step.unmarked_eq_unmarked_iff] at unmarked
    exact ⟨step, left, unmarked.1.symm, unmarked.2.symm⟩
  called := by
    intro index turn here
    rcases orderly.regular_getElem? here with ⟨step, handed, -, regular⟩
    rw [Turn.ownCall?, Option.map_eq_none_iff, regular.reply?_eq_none_iff,
      regular.step_eq]
  looked_up := by
    intro index turn here
    rcases orderly.regular_getElem? here with ⟨step, handed, -, regular⟩
    have kind :
        (tell position turns list).steps[index + 1]?.map Step.kind =
          list[index + 1]?.map Step.kind := by
      rw [← List.getElem?_map, orderly.map_kind_steps_tell,
        List.getElem?_map]
    rw [Turn.isSome_lookupCall? regular, regular.isSome_lookup?_iff,
      regular.step_eq, kind]
  went_on := by
    intro index turn here inside
    rcases orderly.regular_getElem? here with
      ⟨step, handed, configured, regular⟩
    rcases orderly.passed_getElem? here (List.getElem?_eq_getElem inside) with
      ⟨next, handed, following, passed, -⟩
    rw [following] at regular
    exact Turn.results_of_passed regular passed

end Run

namespace Engine

/-- The first run of a document, whatever its actions and its sink do, leaves
the kinds of its steps, makes exactly the calls that their turns ask for, and
marks by them. -/
theorem run_fresh_calls_in_order
    (registry : Registry (StateM World))
    (sink : Sink (StateM World))
    (document : Document)
    (world : World) :
    let run := ((run registry sink { document }).run world).1
    let journal :=
      ((Engine.run registry.journaled sink.journaled { document }).run
        { world }).2
    ∃ turns,
      turns.length = run.reached ∧
        run.engine.document.steps.map Step.kind =
          document.steps.map Step.kind ∧
        Run.CallsInOrder registry run.engine.document.steps turns
          journal.calls ∧
        ((∀ step kind, run.result ≠ .error (.invalidAction step kind)) →
          ∀ (position : Nat) (step : Step),
            run.engine.document.steps[position]? = some step →
              (step.result? = some .success ↔
                ∃ turn, turns[position]? = some turn ∧ turn.Succeeded)) := by
  intro run journal
  have orderly := Run.course_orderly registry [] document.steps world
  have steps : run.engine.document.steps = _ :=
    run_fresh_steps registry sink document world
  refine ⟨_, (run_fresh_reached registry sink document world).symm, ?_, ?_,
    ?_⟩
  · rw [steps]
    exact orderly.map_kind_steps_tell 0
  · rw [steps, run_fresh_calls]
    exact orderly.callsInOrder 0
  · intro registered position step here
    have persisted :=
      run_fresh_isPersisted registry sink document world registered
    rw [steps] at here
    exact orderly.success_getElem?_tell 0 persisted here

/-- Between the calls of a step and of a condition behind it a change time is
looked up. -/
theorem run_fresh_calls_in_order_budgeted :
    let document : Document := {
      steps := [
        { kind := .create, arguments := ["a.txt"] },
        { kind := .condition, arguments := ["first", "second"] }] }
    let run := ((run .budgeted Sink.accepting { document }).run 9).1
    let journal :=
      ((Engine.run Registry.budgeted.journaled Sink.accepting.journaled
        { document }).run { world := 9 }).2
    journal.calls =
        [⟨.create, ["a.txt"], .ok "create"⟩,
          ⟨.cTime, ["create"], .ok "c_time"⟩,
          ⟨.condition, ["first", "second", "c_time", "create"],
            .ok "condition"⟩] ∧
      ∃ turns,
        Run.CallsInOrder .budgeted run.engine.document.steps turns
            journal.calls ∧
          ∃ turn, turns[0]? = some turn ∧ turn.lookupCall?.isSome := by
  intro document run journal
  rcases run_fresh_calls_in_order .budgeted Sink.accepting document 9 with
    ⟨turns, length, kinds, ordered, -⟩
  have reached : turns.length = 2 := by
    rw [length, run_fresh_reached]
    rfl
  refine ⟨(run_fresh_calls ..).trans rfl, turns, ordered, turns[0],
    List.getElem?_eq_getElem _, ?_⟩
  have first : turns[0]? = some turns[0] := List.getElem?_eq_getElem _
  rcases ordered.performed 0 _ first with ⟨step, left, kind, -⟩
  have isCreate : step.kind = .create := by
    have told := congrArg (fun kinds => kinds[0]?) kinds
    rw [List.getElem?_map, left] at told
    exact Option.some.inj told
  have next :
      run.engine.document.steps[1]?.map Step.kind = some .condition := by
    rw [← List.getElem?_map, kinds]
    rfl
  rw [ordered.looked_up 0 _ first, kind, isCreate]
  exact ⟨(ordered.went_on 0 _ first (by omega)).1, by decide, next, rfl⟩

end Engine

end Scenario
