import Scenario.Proofs.Unregistered

/-!
# What a document carries into a run

A document may carry results and a summary from an earlier run.  A run never
looks at them: it asks for the same, in the same order, if all marks are taken
off the steps beforehand, and the record that it keeps is the same as well.
Only a run that is abandoned leaves marks standing that it has found, on the
steps from the abandoned one on.
-/

namespace Scenario

variable {World : Type}

/-! ## Steps without marks -/

namespace Step

@[simp]
theorem unmarked_kind (step : Step) : step.unmarked.kind = step.kind :=
  rfl

@[simp]
theorem unmarked_arguments (step : Step) :
    step.unmarked.arguments = step.arguments :=
  rfl

@[simp]
theorem succeeded_unmarked (step : Step) :
    step.unmarked.succeeded = step.succeeded :=
  rfl

@[simp]
theorem failed_unmarked (step : Step) : step.unmarked.failed = step.failed :=
  rfl

/-- Arguments may be delivered before or after a mark is taken off. -/
theorem unmarked_deliver (step : Step) (forwarded : List String) :
    step.unmarked.deliver forwarded = (step.deliver forwarded).unmarked := by
  unfold deliver
  rw [unmarked_kind]
  split <;> rfl

end Step

/-- Two documents ask for the same, whatever results and summaries they
carry. -/
def Document.AsksAs (one other : Document) : Prop :=
  one.steps.map Step.unmarked = other.steps.map Step.unmarked

/-! ## The course of unmarked steps -/

namespace Turn

/-- The turn with the mark taken off its step. -/
def unmarked (turn : Turn) : Turn :=
  { turn with step := turn.step.unmarked }

@[simp]
theorem verdict_unmarked (turn : Turn) (next? : Option ActionKind) :
    turn.unmarked.verdict next? = turn.verdict next? :=
  rfl

end Turn

namespace Run

variable (registry : Registry (StateM World))

theorem turn_unmarked
    (current : Step)
    (next? : Option ActionKind)
    (world : World) :
    let taken := (turn registry current next?).run world
    (turn registry current.unmarked next?).run world =
      (taken.1.unmarked, taken.2) := by
  dsimp only
  rw [turn_run, turn_run, Step.unmarked_kind, Step.unmarked_arguments]
  generalize (registry.ask current.kind current.arguments).run world = own
  rcases own with ⟨_ | (error | result), after⟩
  · rfl
  · rfl
  · cases next? with
    | none => rfl
    | some next =>
      dsimp only
      split <;> rfl

theorem head?_map_unmarked (list : List Step) :
    (list.map Step.unmarked).head?.map Step.kind =
      list.head?.map Step.kind := by
  cases list <;> rfl

/-- The course of unmarked steps is the course of the steps, with the marks
taken off. -/
theorem course_unmarked
    (forwarded : List String)
    (list : List Step)
    (world : World) :
    let told := (course registry forwarded list).run world
    (course registry forwarded (list.map Step.unmarked)).run world =
      (told.1.map Turn.unmarked, told.2) := by
  dsimp only
  induction list generalizing forwarded world with
  | nil => rfl
  | cons current rest induction =>
    rw [List.map_cons, course_run_cons, course_run_cons,
      head?_map_unmarked, Step.unmarked_deliver, turn_unmarked]
    generalize
      (turn registry (current.deliver forwarded)
        (rest.head?.map Step.kind)).run world = taken
    rw [Turn.verdict_unmarked]
    cases taken.1.verdict (rest.head?.map Step.kind) with
    | passed handed =>
      dsimp only
      rw [induction]
      rfl
    | conditionFalse => rfl
    | stopped obstacle => rfl

end Run

/-! ## The record of unmarked steps -/

namespace Report

/-- The report, with the marks taken off the steps that a run has left as they
were. -/
def blank (report : Report) : Report :=
  if report.ending.IsPersisted then report
  else
    { report with
      steps :=
        report.steps.take report.success ++
          (report.steps.drop report.success).map Step.unmarked }

theorem blank_of_isPersisted
    {report : Report}
    (persisted : report.ending.IsPersisted) :
    report.blank = report :=
  if_pos persisted

@[simp]
theorem ending_blank (report : Report) :
    report.blank.ending = report.ending := by
  unfold blank
  split <;> rfl

@[simp]
theorem map_unmarked_steps_blank (report : Report) :
    report.blank.steps.map Step.unmarked =
      report.steps.map Step.unmarked := by
  unfold blank
  split
  · rfl
  · have twice : Step.unmarked ∘ Step.unmarked = Step.unmarked := rfl
    rw [List.map_append, List.map_map, twice, ← List.map_append,
      List.take_append_drop]

/-- The steps that were marked as succeeded keep their marks. -/
@[simp]
theorem take_success_steps_blank (report : Report) :
    report.blank.steps.take report.success =
      report.steps.take report.success := by
  unfold blank
  split
  · rfl
  · rcases Nat.le_total report.success report.steps.length with
      inside | outside
    · exact List.take_left' (List.length_take_of_le inside)
    · rw [List.drop_of_length_le outside, List.map_nil, List.append_nil,
        List.take_take, Nat.min_self]

theorem blank_after
    (report : Report)
    (step : Step)
    (log : List LogEvent) :
    (report.after step log).blank = report.blank.after step.unmarked log := by
  unfold blank after
  split <;> simp_all

end Report

namespace Run

theorem blank_stopFalse
    (position : Nat)
    (log : List LogEvent)
    (condition : Step)
    (rest : List Step) :
    (stopFalse position log condition rest).blank =
      stopFalse position log condition.unmarked (rest.map Step.unmarked) := by
  have persisted :
      (stopFalse position log condition rest).ending.IsPersisted :=
    trivial
  rw [Report.blank_of_isPersisted persisted]
  simp [stopFalse, Function.comp_def]

theorem blank_stop
    (position : Nat)
    (log : List LogEvent)
    (steps : List Step)
    (obstacle : Obstacle) :
    (stop position log steps obstacle).blank =
      stop position log (steps.map Step.unmarked) obstacle := by
  cases obstacle with
  | failure error =>
    have persisted :
        (stop position log steps (.failure error)).ending.IsPersisted :=
      trivial
    rw [Report.blank_of_isPersisted persisted]
    simp [stop, Function.comp_def]
  | unregistered kind => rfl

/-- The record of unmarked steps is the record of the steps, with the marks
taken off that were there before. -/
theorem tell_unmarked
    (position : Nat)
    (turns : List Turn)
    (list : List Step) :
    tell position (turns.map Turn.unmarked) (list.map Step.unmarked) =
      (tell position turns list).blank := by
  induction turns generalizing position list with
  | nil => rfl
  | cons turn turns induction =>
    cases list with
    | nil => rfl
    | cons current rest =>
      simp only [tell, List.map_cons, head?_map_unmarked,
        Turn.verdict_unmarked]
      cases turn.verdict (rest.head?.map Step.kind) with
      | passed handed =>
        dsimp only
        rw [induction, Report.blank_after]
        rfl
      | conditionFalse => exact (blank_stopFalse _ _ _ _).symm
      | stopped obstacle =>
        dsimp only
        rw [blank_stop]
        rfl

end Run

/-! ## Runs over documents that ask for the same -/

attribute [ext] Journal

/-- Two runs were abandoned at the same step, counted from one.  They have left
the same, but for the results from this step on, where each has kept those of
its own document. -/
structure EngineRun.AbandonedAlike
    (run other : EngineRun)
    (document otherDocument : Document)
    (step : Nat) : Prop where
  summary_eq :
    run.engine.document.summary = other.engine.document.summary
  asksAs : run.engine.document.AsksAs other.engine.document
  take_eq :
    run.engine.document.steps.take (step - 1) =
      other.engine.document.steps.take (step - 1)
  kept :
    (run.engine.document.steps.drop (step - 1)).map Step.result? =
      (document.steps.drop (step - 1)).map Step.result?
  otherKept :
    (other.engine.document.steps.drop (step - 1)).map Step.result? =
      (otherDocument.steps.drop (step - 1)).map Step.result?

namespace Engine

section

variable
    (registry : Registry (StateM World))
    {one other : Document}
    (same : one.AsksAs other)
    (world : World)

include same

/-- The calls do not depend on marks, and so the world does not. -/
theorem course_of_asksAs :
    let told (document : Document) :=
      (Run.course registry [] document.steps).run world
    (told one).1.flatMap Turn.calls = (told other).1.flatMap Turn.calls ∧
      (told one).2 = (told other).2 := by
  intro told
  have unmarked (document : Document) :
      (Run.course registry [] (document.steps.map Step.unmarked)).run world =
        ((told document).1.map Turn.unmarked, (told document).2) :=
    Run.course_unmarked registry [] document.steps world
  have courses := (unmarked one).symm.trans (same ▸ unmarked other)
  rcases Prod.mk.inj courses with ⟨turns, worlds⟩
  have calls := congrArg (List.flatMap Turn.calls) turns
  rw [List.flatMap_map, List.flatMap_map] at calls
  exact ⟨calls, worlds⟩

theorem blank_record_of_asksAs :
    (record registry one world).blank =
      (record registry other world).blank := by
  have unmarked (document : Document) :
      (record registry document world).blank =
        Run.tell 0
          ((Run.course registry []
            (document.steps.map Step.unmarked)).run world).1
          (document.steps.map Step.unmarked) := by
    rw [record, ← Run.tell_unmarked, Run.course_unmarked]
  rw [unmarked, unmarked, same]

theorem ending_record_of_asksAs :
    (record registry one world).ending =
      (record registry other world).ending := by
  have endings :=
    congrArg Report.ending (blank_record_of_asksAs registry same world)
  rwa [Report.ending_blank, Report.ending_blank] at endings

/-- A record that is persisted has no marks but its own. -/
theorem record_of_asksAs
    (persisted : (record registry one world).ending.IsPersisted) :
    record registry one world = record registry other world := by
  have records := blank_record_of_asksAs registry same world
  have otherPersisted := persisted
  rw [ending_record_of_asksAs registry same world] at otherPersisted
  rwa [Report.blank_of_isPersisted persisted,
    Report.blank_of_isPersisted otherPersisted] at records

theorem steps_run_snd_of_asksAs :
    ((Run.steps registry one.steps).run world).2 =
      ((Run.steps registry other.steps).run world).2 := by
  rw [(Run.steps_run registry one.steps world).2,
    (Run.steps_run registry other.steps world).2]
  exact (course_of_asksAs registry same world).2

/-- What is returned does not depend on marks, and neither does the world. -/
theorem run_fresh_of_asksAs (sink : Sink (StateM World)) :
    let run (document : Document) :=
      (Engine.run registry sink { document }).run world
    (run one).1.result = (run other).1.result ∧
      (run one).2 = (run other).2 := by
  intro run
  dsimp only [run]
  rw [run_fresh_result, run_fresh_result, run_fresh_snd, run_fresh_snd,
    steps_run_snd_of_asksAs registry same world,
    ← ending_record_of_asksAs registry same world]
  by_cases persisted : (record registry one world).ending.IsPersisted
  · rw [if_pos persisted, if_pos persisted, if_pos persisted,
      if_pos persisted, record_of_asksAs registry same world persisted]
    exact ⟨rfl, rfl⟩
  · rw [if_neg persisted, if_neg persisted, if_neg persisted,
      if_neg persisted]
    exact ⟨rfl, rfl⟩

theorem events_of_asksAs (sink : Sink (StateM World)) :
    let journal (document : Document) :=
      ((Engine.run registry.journaled sink.journaled { document }).run
        { world }).2
    (journal one).events = (journal other).events := by
  intro journal
  rcases course_of_asksAs registry same world with ⟨calls, worlds⟩
  dsimp only [journal]
  rw [run_fresh_events, run_fresh_events, calls, worlds,
    ← ending_record_of_asksAs registry same world]
  by_cases persisted : (record registry one world).ending.IsPersisted
  · rw [if_pos persisted, if_pos persisted,
      record_of_asksAs registry same world persisted]
  · rw [if_neg persisted, if_neg persisted]

theorem abandonedAlike_of_asksAs
    (sink : Sink (StateM World))
    {position : Nat}
    {kind : ActionKind}
    (ending :
      (record registry one world).ending = .unregistered position kind) :
    let run (document : Document) :=
      ((Engine.run registry sink { document }).run world).1
    (run one).AbandonedAlike (run other) one other (position + 1) := by
  intro run
  have otherEnding := ending
  rw [ending_record_of_asksAs registry same world] at otherEnding
  have abandons
      {document : Document}
      (ending :
        (record registry document world).ending =
          .unregistered position kind) :
      ∃ journal : Journal World,
        (run document).Abandons journal document position kind := by
    rcases
        (ending_record_eq_unregistered_iff registry document world position
          kind).mp ending with
      ⟨first, rest, stage, steps, reaches, lacks⟩
    exact ⟨_, run_fresh_abandons sink steps reaches lacks⟩
  rcases abandons ending with ⟨journal, abandoned⟩
  rcases abandons otherEnding with ⟨otherJournal, otherAbandoned⟩
  have records := blank_record_of_asksAs registry same world
  have left (document : Document) :
      (run document).engine.document.steps =
        (record registry document world).steps :=
    run_fresh_steps registry sink document world
  have size : one.size = other.size := by
    have lengths := congrArg List.length same
    rwa [List.length_map, List.length_map] at lengths
  have success
      {document : Document}
      {journal : Journal World}
      (abandoned :
        (run document).Abandons journal document position kind) :
      (record registry document world).success = position := by
    have summary := abandoned.summary_eq
    dsimp only [run] at summary
    rw [run_fresh_document] at summary
    exact congrArg Summary.success summary
  have kept
      {document : Document}
      {journal : Journal World}
      (abandoned :
        (run document).Abandons journal document position kind) :
      ((run document).engine.document.steps.drop position).map Step.result? =
        (document.steps.drop position).map Step.result? := by
    rw [List.map_drop, abandoned.results_eq]
    exact List.drop_left' List.length_replicate
  exact {
    summary_eq := by
      rw [abandoned.summary_eq, otherAbandoned.summary_eq, size]
    asksAs := by
      have steps := congrArg (List.map Step.unmarked ∘ Report.steps) records
      rw [Document.AsksAs, left, left]
      simpa using steps
    take_eq := by
      have first :=
        (record registry one world).take_success_steps_blank
      have otherFirst :=
        (record registry other world).take_success_steps_blank
      rw [success abandoned, records] at first
      rw [success otherAbandoned] at otherFirst
      rw [left, left]
      exact first.symm.trans otherFirst
    kept := kept abandoned
    otherKept := kept otherAbandoned }

end

/-- What a first run does, whatever its actions and its sink do, does not depend
on the results and the summary that its document carries.  None of them is left
either, unless the run is abandoned. -/
theorem run_fresh_disregards_results
    (registry : Registry (StateM World))
    (sink : Sink (StateM World))
    {one other : Document}
    (same : one.AsksAs other)
    (world : World) :
    let run (document : Document) :=
      (Engine.run registry sink { document }).run world
    let journal (document : Document) :=
      ((Engine.run registry.journaled sink.journaled { document }).run
        { world }).2
    journal one = journal other ∧
      (run one).1.result = (run other).1.result ∧
      (run one).1.engine.state = (run other).1.engine.state ∧
      (run one).2 = (run other).2 ∧
      ((∀ step kind,
          (run one).1.result ≠ .error (.invalidAction step kind)) →
        (run one).1.engine.document = (run other).1.engine.document) ∧
      ∀ step kind,
        (run one).1.result = .error (.invalidAction step kind) →
          (run one).1.AbandonedAlike (run other).1 one other step := by
  intro run journal
  rcases run_fresh_of_asksAs registry same world sink with ⟨result, worlds⟩
  refine ⟨?_, result, ?_, worlds, ?_, ?_⟩
  · have noted (document : Document) :
        (journal document).world = (run document).2 :=
      (run_fresh_journaled registry sink document { world }).2.2
    have events : (journal one).events = (journal other).events :=
      events_of_asksAs registry same world sink
    have after : (journal one).world = (journal other).world := by
      rw [noted, noted, worlds]
    exact Journal.ext after events
  · dsimp only [run]
    rw [run_fresh_state, run_fresh_state,
      ending_record_of_asksAs registry same world]
  · intro registered
    have persisted :=
      run_fresh_isPersisted registry sink one world registered
    dsimp only [run]
    rw [run_fresh_document, run_fresh_document,
      record_of_asksAs registry same world persisted]
  · intro step kind abandoned
    rcases ending_record_of_invalidAction abandoned with
      ⟨position, rfl, ending⟩
    exact abandonedAlike_of_asksAs registry same world sink ending

/-- A run that is abandoned at its second step leaves the results that it has
found from there on, and takes everything else from no earlier run. -/
theorem run_fresh_disregards_results_budgeted :
    let one : Document := {
      steps := [
        { kind := .create, arguments := ["a.txt"], result? := some .failed },
        { kind := .unknown, result? := some .success },
        { kind := .remove, result? := some .failed }]
      summary := {
        total := 1
        failed := 2
        failedStep? := some 1
        error? := some "stale"
        errorKind? := some .io } }
    let other : Document := {
      steps := [
        { kind := .create, arguments := ["a.txt"] },
        { kind := .unknown },
        { kind := .remove }] }
    let run (document : Document) :=
      (Engine.run .budgeted Sink.accepting { document }).run 2
    let journal (document : Document) :=
      ((Engine.run Registry.budgeted.journaled
        (Sink.journaled Sink.accepting) { document }).run { world := 2 }).2
    one.AsksAs other ∧
      journal one = journal other ∧
      (run one).1.AbandonedAlike (run other).1 one other 2 := by
  intro one other run journal
  have same : one.AsksAs other := rfl
  rcases run_fresh_disregards_results .budgeted Sink.accepting same 2 with
    ⟨journals, -, -, -, -, abandoned⟩
  have result : (run one).1.result = .error (.invalidAction 2 .unknown) :=
    (run_fresh_result .budgeted Sink.accepting one 2).trans rfl
  exact ⟨same, journals, abandoned 2 .unknown result⟩

end Engine

end Scenario
