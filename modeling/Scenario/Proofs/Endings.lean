import Scenario.Proofs.Order

/-!
# How a run ends, by its calls

A run that gives a document to its sink has come to an end in one of three
ways, and each can be told from what its calls gave: all of them gave results,
one answered that a condition does not hold, or one failed.  The first two are
stated here of the turns alone, apart from the record that is kept of them.
-/

namespace Scenario

variable {World : Type}

namespace Run

/-- The turns of all steps came, and all calls made in them gave results. -/
structure PerformsAll
    (configured : List Step)
    (turns : List Turn) : Prop where
  length_eq : turns.length = configured.length
  results :
    ∀ turn ∈ turns,
      (∃ result, turn.reply? = some (.ok result)) ∧
        ∀ reply, turn.lookup? = some reply → ∃ stamp, reply = .ok stamp

/-- The action of a step answered that a condition does not hold. -/
def MeetsFalseCondition (turns : List Turn) : Prop :=
  ∃ turn ∈ turns, turn.reply? = some (.error .falseCondition)

theorem performsAll_cons_iff
    {current : Step}
    {rest : List Step}
    {turn : Turn}
    {turns : List Turn} :
    PerformsAll (current :: rest) (turn :: turns) ↔
      ((∃ result, turn.reply? = some (.ok result)) ∧
          ∀ reply, turn.lookup? = some reply → ∃ stamp, reply = .ok stamp) ∧
        PerformsAll rest turns := by
  constructor
  · rintro ⟨length, results⟩
    rw [List.forall_mem_cons] at results
    exact ⟨results.1, Nat.succ.inj length, results.2⟩
  · rintro ⟨first, length, results⟩
    exact ⟨congrArg Nat.succ length, List.forall_mem_cons.mpr ⟨first, results⟩⟩

theorem meetsFalseCondition_cons_iff
    {turn : Turn}
    {turns : List Turn} :
    MeetsFalseCondition (turn :: turns) ↔
      turn.reply? = some (.error .falseCondition) ∨
        MeetsFalseCondition turns := by
  simp [MeetsFalseCondition]

variable
    {registry : Registry (StateM World)}
    {forwarded : List String}
    {list : List Step}
    {turns : List Turn}

/-- A turn that stops a run before a step, or as the last, keeps it from
performing all steps. -/
theorem not_performsAll_of_stopped
    {current : Step}
    {rest : List Step}
    {turn : Turn}
    {obstacle : Obstacle}
    (stopped :
      turn.verdict (rest.head?.map Step.kind) = .stopped obstacle) :
    ¬ PerformsAll (current :: rest) [turn] := by
  rw [performsAll_cons_iff]
  rintro ⟨⟨⟨result, answered⟩, -⟩, last, -⟩
  -- The only turn is then that of the last step, which passes with a result.
  obtain rfl : rest = [] := List.eq_nil_of_length_eq_zero last.symm
  simp [Turn.verdict, answered] at stopped

/-- A course has performed all steps exactly if its record is completed. -/
theorem Orderly.ending_eq_completed_iff
    (orderly : Orderly registry forwarded list turns)
    (position : Nat) :
    (tell position turns list).ending = .completed ↔
      PerformsAll list turns := by
  induction orderly generalizing position with
  | done => exact iff_of_true rfl ⟨rfl, List.forall_mem_nil _⟩
  | passed regular verdict behind induction =>
    have results := Turn.results_of_passed regular verdict
    simp only [tell, verdict, Report.after]
    rw [induction, performsAll_cons_iff, and_iff_right results]
  | conditionFalse regular verdict =>
    simp only [tell, verdict, stopFalse]
    refine iff_of_false (by simp) ?_
    rw [Turn.verdict_eq_conditionFalse_iff] at verdict
    rw [performsAll_cons_iff, verdict]
    rintro ⟨⟨⟨result, ⟨⟩⟩, -⟩, -⟩
  | @stopped _ _ rest turn obstacle regular verdict =>
    simp only [tell, verdict]
    refine iff_of_false ?_ (not_performsAll_of_stopped verdict)
    cases obstacle <;> simp [stop]

/-- A course has met a false condition exactly if its record ends at one. -/
theorem Orderly.ending_eq_falseCondition_iff
    (orderly : Orderly registry forwarded list turns)
    (position : Nat) :
    (∃ place, (tell position turns list).ending = .falseCondition place) ↔
      MeetsFalseCondition turns := by
  induction orderly generalizing position with
  | done => simp [tell, MeetsFalseCondition]
  | passed regular verdict behind induction =>
    rcases Turn.results_of_passed regular verdict with
      ⟨⟨result, answered⟩, -⟩
    simp only [tell, verdict, Report.after]
    simp [induction, meetsFalseCondition_cons_iff, answered]
  | conditionFalse regular verdict =>
    simp only [tell, verdict, stopFalse]
    rw [Turn.verdict_eq_conditionFalse_iff] at verdict
    exact iff_of_true ⟨_, rfl⟩ ⟨_, .head [], verdict⟩
  | @stopped _ _ rest turn obstacle regular verdict =>
    simp only [tell, verdict]
    refine iff_of_false ?_ ?_
    · cases obstacle <;> simp [stop]
    · rintro ⟨turn, member, answered⟩
      rcases List.mem_singleton.mp member with rfl
      rw [(Turn.verdict_eq_conditionFalse_iff _ _).mpr answered] at verdict
      cases verdict

/-- A course that failed has marked a step as failed. -/
theorem Orderly.failed_pos
    (orderly : Orderly registry forwarded list turns)
    {position place : Nat}
    {error : ActionError}
    (ending : (tell position turns list).ending = .failed place error) :
    1 ≤ (tell position turns list).failed := by
  induction orderly generalizing position with
  | done => cases ending
  | passed regular verdict behind induction =>
    simp only [tell, verdict] at ending ⊢
    exact induction ending
  | conditionFalse regular verdict =>
    simp only [tell, verdict] at ending
    cases ending
  | @stopped _ _ rest turn obstacle regular verdict =>
    cases obstacle with
    | failure cause =>
      simp only [tell, verdict] at ending ⊢
      exact Nat.succ_pos _
    | unregistered kind =>
      simp only [tell, verdict] at ending
      cases ending

/-! ## Where a false condition comes from -/

section

variable
    (never :
      ∀ arguments world,
        ((registry.ask .cTime arguments).run world).1 ≠
          some (.error .falseCondition))

include never

theorem lookup?_turn_ne
    (current : Step)
    (next? : Option ActionKind)
    (world : World) :
    ((turn registry current next?).run world).1.lookup? ≠
      some (.error .falseCondition) := by
  rw [turn_run]
  generalize (registry.ask current.kind current.arguments).run world = own
  rcases own with ⟨_ | (error | result), after⟩
  · simp
  · simp
  · cases next? with
    | none => simp
    | some next =>
      dsimp only
      split
      · exact never _ after
      · simp

/-- If no change time answers with a false condition, no look-up of a course
does. -/
theorem lookup?_ne_of_mem_course
    {world : World}
    {turn : Turn}
    (member : turn ∈ ((course registry forwarded list).run world).1) :
    turn.lookup? ≠ some (.error .falseCondition) := by
  induction list generalizing forwarded world with
  | nil => cases member
  | cons current rest induction =>
    have first :=
      lookup?_turn_ne never (current.deliver forwarded)
        (rest.head?.map Step.kind) world
    rw [course_run_cons] at member
    revert member first
    generalize
      (Run.turn registry (current.deliver forwarded)
        (rest.head?.map Step.kind)).run world = taken
    intro member first
    cases verdict : taken.1.verdict (rest.head?.map Step.kind) with
    | passed handed =>
      simp only [verdict] at member
      rcases List.mem_cons.mp member with rfl | behind
      · exact first
      · exact induction behind
    | conditionFalse =>
      simp only [verdict] at member
      rcases List.mem_singleton.mp member with rfl
      exact first
    | stopped obstacle =>
      simp only [verdict] at member
      rcases List.mem_singleton.mp member with rfl
      exact first

end

/-- A turn that is stopped by an error is not stopped by a false condition,
unless its look-up has answered with one. -/
theorem ne_falseCondition_of_verdict
    {turn : Turn}
    {next? : Option ActionKind}
    {error : ActionError}
    (stopped : turn.verdict next? = .stopped (.failure error))
    (looked : turn.lookup? ≠ some (.error .falseCondition)) :
    error ≠ .falseCondition := by
  rintro rfl
  rcases Turn.replies_of_failure stopped with ⟨-, other⟩ | ⟨-, found⟩
  · exact other rfl
  · exact looked found

end Run

end Scenario
