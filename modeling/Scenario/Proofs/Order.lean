import Scenario.Engine
import Scenario.Proofs.Course

/-!
# The order of turns

The turns of a course follow one another by rules that do not mention the
world.  A list of turns that keeps to them is *orderly*.  Every course is
orderly, so an induction over orderly turns, with one case for each way a turn
can end, says something about all runs.  This module draws what such inductions
give: where a record ends, what it counts, and what it says about the steps.
-/

namespace Scenario

variable {World : Type}

/-- The number of steps whose turn came in a run over the given number of
steps. -/
def Ending.reached (total : Nat) : Ending → Nat
  | completed => total
  | falseCondition position => position + 1
  | failed position _ => position + 1
  | unregistered position _ => position + 1

/-- The number of steps that succeed in a run over the given number of
steps. -/
def Ending.succeeded (total : Nat) : Ending → Nat
  | completed => total
  | falseCondition position => position + 1
  | failed position _ => position
  | unregistered position _ => position

/-- How the last turn ends of a run that ends in this way, unless the run is
completed. -/
def Ending.verdict? : Ending → Option Verdict
  | completed => none
  | falseCondition _ => some .conditionFalse
  | failed _ error => some (.stopped (.failure error))
  | unregistered _ kind => some (.stopped (.unregistered kind))

namespace Run

/-- Turns follow the rules of a run over a list of steps, the first of which
is yet to be handed arguments. -/
inductive Orderly (registry : Registry (StateM World)) :
    List String → List Step → List Turn → Prop where
  | done {forwarded} : Orderly registry forwarded [] []
  | passed {forwarded current rest turn handed turns}
      (regular :
        turn.Regular registry (current.deliver forwarded)
          (rest.head?.map Step.kind))
      (verdict : turn.verdict (rest.head?.map Step.kind) = .passed handed)
      (behind : Orderly registry handed rest turns) :
      Orderly registry forwarded (current :: rest) (turn :: turns)
  | conditionFalse {forwarded current rest turn}
      (regular :
        turn.Regular registry (current.deliver forwarded)
          (rest.head?.map Step.kind))
      (verdict : turn.verdict (rest.head?.map Step.kind) = .conditionFalse) :
      Orderly registry forwarded (current :: rest) [turn]
  | stopped {forwarded current rest turn obstacle}
      (regular :
        turn.Regular registry (current.deliver forwarded)
          (rest.head?.map Step.kind))
      (verdict :
        turn.verdict (rest.head?.map Step.kind) = .stopped obstacle) :
      Orderly registry forwarded (current :: rest) [turn]

/-- Every course is orderly. -/
theorem course_orderly
    (registry : Registry (StateM World))
    (forwarded : List String)
    (list : List Step)
    (world : World) :
    Orderly registry forwarded list
      ((course registry forwarded list).run world).1 := by
  induction list generalizing forwarded world with
  | nil => exact .done
  | cons current rest induction =>
    have regular := turn_regular registry (current.deliver forwarded)
      (rest.head?.map Step.kind) world
    rw [course_run_cons]
    revert regular
    generalize
      (turn registry (current.deliver forwarded)
        (rest.head?.map Step.kind)).run world = taken
    intro regular
    cases verdict : taken.1.verdict (rest.head?.map Step.kind) with
    | passed handed =>
      exact .passed regular verdict (induction handed taken.2)
    | conditionFalse => exact .conditionFalse regular verdict
    | stopped obstacle => exact .stopped regular verdict

variable {registry : Registry (StateM World)}

/-! ## Neighbouring turns -/

/-- The first turn is a regular turn of the first step. -/
theorem Orderly.head
    {forwarded : List String}
    {current : Step}
    {rest : List Step}
    {turn : Turn}
    {turns : List Turn}
    (orderly : Orderly registry forwarded (current :: rest) (turn :: turns)) :
    turn.Regular registry (current.deliver forwarded)
      (rest.head?.map Step.kind) := by
  cases orderly with
  | passed regular verdict behind => exact regular
  | conditionFalse regular verdict => exact regular
  | stopped regular verdict => exact regular

theorem Orderly.step_zero
    {forwarded : List String}
    {list : List Step}
    {turns : List Turn}
    (orderly : Orderly registry forwarded list turns)
    {turn : Turn}
    (first : turns[0]? = some turn) :
    ∃ step, list[0]? = some step ∧ turn.step = step.deliver forwarded := by
  cases turns with
  | nil => cases first
  | cons taken turns =>
    cases first
    cases list with
    | nil => cases orderly
    | cons current rest => exact ⟨current, rfl, orderly.head.step_eq⟩

/-- Every turn is a regular turn of the step at its position. -/
theorem Orderly.regular_getElem?
    {forwarded : List String}
    {list : List Step}
    {turns : List Turn}
    (orderly : Orderly registry forwarded list turns)
    {position : Nat}
    {turn : Turn}
    (here : turns[position]? = some turn) :
    ∃ step handed,
      list[position]? = some step ∧
        turn.Regular registry (step.deliver handed)
          (list[position + 1]?.map Step.kind) := by
  -- A later turn belongs to the course behind the first, so the induction
  -- is on the position.
  induction position generalizing forwarded list turns with
  | zero =>
    cases turns with
    | nil => cases here
    | cons taken turns =>
      cases here
      cases list with
      | nil => cases orderly
      | cons current rest =>
        have regular := orderly.head
        rw [List.head?_eq_getElem?] at regular
        exact ⟨current, forwarded, rfl, regular⟩
  | succ position induction =>
    cases orderly with
    | done => cases here
    | passed regular verdict behind => exact induction behind here
    | conditionFalse regular verdict => cases here
    | stopped regular verdict => cases here

/-- A turn that is not the last has passed, and the next step is performed on
what it was handed. -/
theorem Orderly.passed_getElem?
    {forwarded : List String}
    {list : List Step}
    {turns : List Turn}
    (orderly : Orderly registry forwarded list turns)
    {position : Nat}
    {turn later : Turn}
    (here : turns[position]? = some turn)
    (next : turns[position + 1]? = some later) :
    ∃ step handed,
      list[position + 1]? = some step ∧
        turn.verdict (some step.kind) = .passed handed ∧
        later.step = step.deliver handed := by
  induction orderly generalizing position with
  | done => simp at here
  | @passed _ _ rest _ handed _ regular verdict behind induction =>
    cases position with
    | zero =>
      cases here
      rcases behind.step_zero next with ⟨step, first, delivered⟩
      rw [List.head?_eq_getElem?, first] at verdict
      exact ⟨step, handed, first, verdict, delivered⟩
    | succ position => exact induction here next
  | conditionFalse regular verdict => simp at next
  | stopped regular verdict => simp at next

/-! ## The record of orderly turns -/

theorem add_length_cons
    (position : Nat)
    (current : Step)
    (rest : List Step) :
    position + (current :: rest).length = position + 1 + rest.length := by
  rw [List.length_cons, Nat.add_assoc, Nat.add_comm 1]

theorem Orderly.length_steps_tell
    {forwarded : List String}
    {list : List Step}
    {turns : List Turn}
    (orderly : Orderly registry forwarded list turns)
    (position : Nat) :
    (tell position turns list).steps.length = list.length := by
  induction orderly generalizing position with
  | done => rfl
  | passed regular verdict behind induction =>
    simp [tell, verdict, Report.after, induction]
  | conditionFalse regular verdict => simp [tell, verdict, stopFalse]
  | stopped regular verdict =>
    rename_i obstacle
    cases obstacle <;> simp [tell, verdict, stop]

theorem Orderly.reached_tell
    {forwarded : List String}
    {list : List Step}
    {turns : List Turn}
    (orderly : Orderly registry forwarded list turns)
    (position : Nat) :
    (tell position turns list).ending.reached (position + list.length) =
      position + turns.length := by
  induction orderly generalizing position with
  | done => rfl
  | @passed _ current rest turn _ turns regular verdict behind induction =>
    have counted := induction (position + 1)
    simp only [tell, verdict, Report.after]
    rw [add_length_cons, counted, List.length_cons]
    omega
  | conditionFalse regular verdict =>
    simp [tell, verdict, stopFalse, Ending.reached]
  | stopped regular verdict =>
    rename_i obstacle
    cases obstacle <;> simp [tell, verdict, stop, Ending.reached]

/-- A record that is not completed ends with the verdict of its last turn. -/
theorem Orderly.exists_getLast?_of_verdict?
    {forwarded : List String}
    {list : List Step}
    {turns : List Turn}
    (orderly : Orderly registry forwarded list turns)
    {position : Nat}
    {verdict : Verdict}
    (ends : (tell position turns list).ending.verdict? = some verdict) :
    ∃ turn next?,
      turns.getLast? = some turn ∧ turn.verdict next? = verdict := by
  induction orderly generalizing position with
  | done => cases ends
  | @passed _ _ _ turn _ turns regular passed behind induction =>
    simp only [tell, passed] at ends
    rcases induction ends with ⟨last, next?, here, stopped⟩
    refine ⟨last, next?, ?_, stopped⟩
    rw [List.getLast?_cons, here, Option.getD_some]
  | @conditionFalse _ _ _ turn regular false =>
    simp only [tell, false] at ends
    cases ends
    exact ⟨turn, _, rfl, false⟩
  | @stopped _ _ _ turn obstacle regular stopped =>
    simp only [tell, stopped] at ends
    refine ⟨turn, _, rfl, stopped.trans ?_⟩
    cases obstacle with
    | failure error =>
      cases ends
      rfl
    | unregistered kind =>
      cases ends
      rfl

/-- The successes of a record are counted up to its ending. -/
theorem Orderly.success_tell
    {forwarded : List String}
    {list : List Step}
    {turns : List Turn}
    (orderly : Orderly registry forwarded list turns)
    (position : Nat) :
    position + (tell position turns list).success =
      (tell position turns list).ending.succeeded
        (position + list.length) := by
  induction orderly generalizing position with
  | done => rfl
  | @passed _ current rest _ _ turns regular verdict behind induction =>
    have counted := induction (position + 1)
    simp only [tell, verdict, Report.after]
    rw [add_length_cons, ← counted]
    omega
  | conditionFalse regular verdict =>
    simp [tell, verdict, stopFalse, Ending.succeeded]
  | stopped regular verdict =>
    rename_i obstacle
    cases obstacle <;> simp [tell, verdict, stop, Ending.succeeded]

/-- A record that ends at a kind with an action has its successes in front and
its failures behind, as many as it counts. -/
theorem Orderly.results_tell
    {forwarded : List String}
    {list : List Step}
    {turns : List Turn}
    (orderly : Orderly registry forwarded list turns)
    (position : Nat)
    (persisted : (tell position turns list).ending.IsPersisted) :
    (tell position turns list).steps.map Step.result? =
      List.replicate (tell position turns list).success (some .success) ++
        List.replicate (tell position turns list).failed (some .failed) := by
  induction orderly generalizing position with
  | done => rfl
  | passed regular verdict behind induction =>
    simp only [tell, verdict, Report.after] at persisted ⊢
    simp [induction (position + 1) persisted, List.replicate_succ]
  | conditionFalse regular verdict =>
    simp [tell, verdict, stopFalse, Function.comp_def, List.map_const']
  | stopped regular verdict =>
    rename_i obstacle
    cases obstacle with
    | failure error =>
      simp [tell, verdict, stop, Function.comp_def, List.map_const',
        List.replicate_succ]
    | unregistered kind =>
      simp only [tell, verdict, stop] at persisted
      exact persisted.elim

/-- A record holds what the steps whose turn came were performed on, and all
other steps as they were configured. -/
theorem Orderly.unmarked_steps_tell
    {forwarded : List String}
    {list : List Step}
    {turns : List Turn}
    (orderly : Orderly registry forwarded list turns)
    (position : Nat) :
    (tell position turns list).steps.map Step.unmarked =
      (turns.map Turn.step ++ list.drop turns.length).map Step.unmarked := by
  induction orderly generalizing position with
  | done => rfl
  | passed regular verdict behind induction =>
    have behind := induction (position + 1)
    simp only [tell, verdict, Report.after, List.map_cons, behind]
    simp
  | conditionFalse regular verdict =>
    simp [tell, verdict, stopFalse, Function.comp_def]
  | stopped regular verdict =>
    rename_i obstacle
    cases obstacle with
    | failure error => simp [tell, verdict, stop, Function.comp_def]
    | unregistered kind => simp [tell, verdict, stop]

/-- The place of a step whose turn came holds what it was performed on. -/
theorem Orderly.unmarked_getElem?_tell
    {forwarded : List String}
    {list : List Step}
    {turns : List Turn}
    (orderly : Orderly registry forwarded list turns)
    (position : Nat)
    {index : Nat}
    {turn : Turn}
    (here : turns[index]? = some turn) :
    (tell position turns list).steps[index]?.map Step.unmarked =
      some turn.step.unmarked := by
  have inside : index < turns.length := (List.getElem?_eq_some_iff.mp here).1
  rw [← List.getElem?_map, orderly.unmarked_steps_tell, List.map_append,
    List.getElem?_append_left (by simpa using inside)]
  simp [here]

theorem Orderly.unmarked_getElem?_tell_of_length_le
    {forwarded : List String}
    {list : List Step}
    {turns : List Turn}
    (orderly : Orderly registry forwarded list turns)
    (position : Nat)
    {index : Nat}
    (behind : turns.length ≤ index) :
    (tell position turns list).steps[index]?.map Step.unmarked =
      list[index]?.map Step.unmarked := by
  rw [← List.getElem?_map, orderly.unmarked_steps_tell, List.map_append,
    List.getElem?_append_right (by simpa using behind)]
  simp [List.getElem?_drop, behind]

end Run

/-- The calls of a turn were those of a step that succeeds: its own gave a
result, and so did a look-up, or it was told that a condition does not hold. -/
def Turn.Succeeded (turn : Turn) : Prop :=
  ((∃ result, turn.reply? = some (.ok result)) ∧
      ∀ reply, turn.lookup? = some reply → ∃ stamp, reply = .ok stamp) ∨
    turn.reply? = some (.error .falseCondition)

namespace Turn

variable {registry : Registry (StateM World)}

/-- A turn with a look-up passes with what the look-up gave. -/
theorem verdict_of_lookup
    {current : Step}
    {next? : Option ActionKind}
    {turn : Turn}
    (regular : turn.Regular registry current next?)
    {reply : ActionResult}
    (made : turn.lookup? = some reply) :
    ∃ result,
      turn.reply? = some (.ok result) ∧
        turn.verdict next? =
          match reply with
          | .ok stamp => .passed (stamp :: forwardedBase result)
          | .error error => .stopped (.failure error) := by
  have isSome : turn.lookup?.isSome := by
    rw [made]
    rfl
  rcases regular.isSome_lookup?_iff.mp isSome with
    ⟨⟨result, answered⟩, different, condition, -⟩
  refine ⟨result, answered, ?_⟩
  rw [← regular.step_eq] at different
  have rule := Forwarding.forPair_condition different
  simp only [verdict, answered, condition, handover, rule, made]
  cases reply <;> rfl

/-- All calls of a turn that passes have given results. -/
theorem results_of_passed
    {current : Step}
    {next? : Option ActionKind}
    {turn : Turn}
    (regular : turn.Regular registry current next?)
    {handed : List String}
    (passed : turn.verdict next? = .passed handed) :
    (∃ result, turn.reply? = some (.ok result)) ∧
      ∀ reply, turn.lookup? = some reply → ∃ stamp, reply = .ok stamp := by
  constructor
  · unfold verdict at passed
    split at passed
    · cases passed
    · cases passed
    · cases passed
    · exact ⟨_, by assumption⟩
  · intro reply made
    rcases verdict_of_lookup regular made with ⟨result, -, verdict⟩
    rw [passed] at verdict
    cases reply with
    | ok stamp => exact ⟨stamp, rfl⟩
    | error error => cases verdict

theorem verdict_eq_conditionFalse_iff
    (turn : Turn)
    (next? : Option ActionKind) :
    turn.verdict next? = .conditionFalse ↔
      turn.reply? = some (.error .falseCondition) := by
  unfold verdict handover
  grind

/-- A turn that ends in a failure has failed itself or in its look-up. -/
theorem replies_of_failure
    {turn : Turn}
    {next? : Option ActionKind}
    {error : ActionError}
    (stopped : turn.verdict next? = .stopped (.failure error)) :
    turn.reply? = some (.error error) ∧ error ≠ .falseCondition ∨
      (∃ result, turn.reply? = some (.ok result)) ∧
        turn.lookup? = some (.error error) := by
  unfold verdict handover at stopped
  grind

theorem not_succeeded_of_failure
    {turn : Turn}
    {next? : Option ActionKind}
    {error : ActionError}
    (stopped : turn.verdict next? = .stopped (.failure error)) :
    ¬ turn.Succeeded := by
  have failed := replies_of_failure stopped
  rintro (⟨⟨result, answered⟩, lookedUp⟩ | false)
  · rcases failed with ⟨own, -⟩ | ⟨-, lookup⟩
    · simp [answered] at own
    · rcases lookedUp _ lookup with ⟨stamp, equal⟩
      cases equal
  · rcases failed with ⟨own, different⟩ | ⟨⟨result, own⟩, -⟩
    · rw [false] at own
      cases own
      exact different rfl
    · simp [false] at own

end Turn

namespace Run

/-- A record that ends at a kind with an action marks exactly the steps as
succeeded whose calls say so. -/
theorem Orderly.success_getElem?_tell
    {forwarded : List String}
    {list : List Step}
    {turns : List Turn}
    (orderly : Orderly registry forwarded list turns)
    (position : Nat)
    (persisted : (tell position turns list).ending.IsPersisted)
    {index : Nat}
    {step : Step}
    (here : (tell position turns list).steps[index]? = some step) :
    step.result? = some .success ↔
      ∃ turn, turns[index]? = some turn ∧ turn.Succeeded := by
  induction orderly generalizing position index with
  | done => simp [tell] at here
  | passed regular verdict behind induction =>
    simp only [tell, verdict, Report.after] at persisted here
    cases index with
    | zero =>
      cases here
      have results := Turn.results_of_passed regular verdict
      exact iff_of_true rfl ⟨_, rfl, Or.inl results⟩
    | succ index => exact induction (position + 1) persisted here
  | conditionFalse regular verdict =>
    simp only [tell, verdict, stopFalse] at here
    cases index with
    | zero =>
      cases here
      have own := (Turn.verdict_eq_conditionFalse_iff _ _).mp verdict
      simp [Turn.Succeeded, own]
    | succ index =>
      have failed : step.result? = some .failed := by
        simp only [List.getElem?_cons_succ, List.getElem?_map,
          Option.map_eq_some_iff] at here
        rcases here with ⟨configured, -, rfl⟩
        rfl
      simp [failed]
  | @stopped _ _ rest turn obstacle regular verdict =>
    cases obstacle with
    | failure error =>
      simp only [tell, verdict, stop] at here
      have failed : step.result? = some .failed := by
        simp only [List.getElem?_map, Option.map_eq_some_iff] at here
        rcases here with ⟨configured, -, rfl⟩
        rfl
      have refuted := Turn.not_succeeded_of_failure verdict
      cases index with
      | zero => simp [failed, refuted]
      | succ index => simp [failed]
    | unregistered kind =>
      simp only [tell, verdict, stop] at persisted
      exact persisted.elim

end Run

end Scenario
