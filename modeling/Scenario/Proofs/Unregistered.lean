import Scenario.Proofs.Journal
import Scenario.Proofs.Stage

/-!
# Runs that lack an action

A run is abandoned at a step if no action answers to a kind that the step
needs: its own, or that of change times if a condition follows.
-/

namespace Scenario

variable {World : Type}

namespace Turn

/-- Only actions that there are get called. -/
theorem Regular.isSome_find?_of_mem_calls
    {registry : Registry (StateM World)}
    {current : Step}
    {next? : Option ActionKind}
    {turn : Turn}
    (regular : turn.Regular registry current next?)
    {call : Call}
    (made : call ∈ turn.calls) :
    (registry.find? call.kind).isSome := by
  rw [calls, List.mem_append, Option.mem_toList, Option.mem_toList] at made
  rcases made with own | lookup
  · rw [ownCall?, Option.map_eq_some_iff] at own
    rcases own with ⟨reply, answered, rfl⟩
    rw [Option.isSome_iff_ne_none, regular.step_eq, ne_eq,
      ← regular.reply?_eq_none_iff, answered]
    exact Option.some_ne_none reply
  · unfold lookupCall? at lookup
    split at lookup
    · rw [Option.map_eq_some_iff] at lookup
      rcases lookup with ⟨reply, found, rfl⟩
      have looked : turn.lookup?.isSome := by
        rw [found]
        rfl
      exact (regular.isSome_lookup?_iff.mp looked).2.2.2
    · cases lookup

end Turn

theorem Run.Orderly.isSome_find?_of_mem_calls
    {registry : Registry (StateM World)}
    {forwarded : List String}
    {list : List Step}
    {turns : List Turn}
    (orderly : Orderly registry forwarded list turns)
    {call : Call}
    (made : call ∈ turns.flatMap Turn.calls) :
    (registry.find? call.kind).isSome := by
  rcases List.mem_flatMap.mp made with ⟨turn, member, called⟩
  rcases List.getElem?_of_mem member with ⟨position, here⟩
  rcases orderly.regular_getElem? here with ⟨step, handed, -, regular⟩
  exact regular.isSome_find?_of_mem_calls called

/-- A run over a document has been abandoned at the step at a position, since
no action answers to a kind. -/
structure EngineRun.Abandons
    (run : EngineRun)
    (journal : Journal World)
    (document : Document)
    (position : Nat)
    (kind : ActionKind) : Prop where
  /-- The sink is not asked. -/
  events_eq : journal.events = journal.calls.map .called
  state_eq : run.engine.state = .stoppedAtFailure
  results_eq :
    run.engine.document.steps.map Step.result? =
      List.replicate position (some .success) ++
        (document.steps.drop position).map Step.result?
  /-- Steps behind the position are left as they were. -/
  drop_eq :
    run.engine.document.steps.drop (position + 1) =
      document.steps.drop (position + 1)
  summary_eq :
    run.engine.document.summary =
      { total := document.size, success := position }
  uncalled : ∀ call ∈ journal.calls, call.kind ≠ kind
  /-- If the step itself has an action, this was called last, and gave a
  result. -/
  called :
    ∀ own, document.steps[position]? = some own → own.kind ≠ kind →
      ∃ performed result,
        run.engine.document.steps[position]? = some performed ∧
          journal.calls.getLast? = some {
            kind := performed.kind
            arguments := performed.arguments
            reply := .ok result }

namespace Engine

theorem ending_record_of_invalidAction
    {registry : Registry (StateM World)}
    {sink : Sink (StateM World)}
    {document : Document}
    {world : World}
    {step : Nat}
    {kind : ActionKind}
    (abandoned :
      ((run registry sink { document }).run world).1.result =
        .error (.invalidAction step kind)) :
    ∃ position,
      step = position + 1 ∧
        (record registry document world).ending =
          .unregistered position kind := by
  rcases run_fresh_refused registry sink document world with
    result | ⟨-, refusal, result⟩
  · rw [result] at abandoned
    cases ending : (record registry document world).ending with
    | unregistered place missing =>
      rw [ending] at abandoned
      cases abandoned
      exact ⟨place, rfl, rfl⟩
    | _ =>
      rw [ending] at abandoned
      cases abandoned
  · rw [result] at abandoned
    cases abandoned

theorem run_fresh_result_eq_invalidAction_iff
    (registry : Registry (StateM World))
    (sink : Sink (StateM World))
    (document : Document)
    (world : World)
    (position : Nat)
    (kind : ActionKind) :
    ((run registry sink { document }).run world).1.result =
        .error (.invalidAction (position + 1) kind) ↔
      (record registry document world).ending =
        .unregistered position kind := by
  constructor
  · intro abandoned
    rcases ending_record_of_invalidAction abandoned with
      ⟨place, same, ending⟩
    rw [Nat.succ.inj same, ending]
  · intro ending
    rw [run_fresh_result, ending]
    rfl

theorem record_eq_of_steps_eq
    (registry : Registry (StateM World))
    {document : Document}
    {first : Step}
    {rest : List Step}
    (world : World)
    (steps : document.steps = first :: rest) :
    record registry document world =
      Stage.record registry 0 { current := first, rest, world } := by
  rw [record, steps]
  rfl

theorem ending_record_eq_unregistered_iff
    (registry : Registry (StateM World))
    (document : Document)
    (world : World)
    (position : Nat)
    (kind : ActionKind) :
    (record registry document world).ending = .unregistered position kind ↔
      ∃ first rest stage,
        document.steps = first :: rest ∧
          Stage.Reaches registry { current := first, rest, world }
            position stage ∧
          stage.Lacks registry kind := by
  cases steps : document.steps with
  | nil =>
    constructor
    · intro ending
      rw [record, steps] at ending
      cases ending
    · rintro ⟨first, rest, stage, impossible, -⟩
      cases impossible
  | cons first rest =>
    have lacking :=
      Stage.ending_record_eq_unregistered_iff registry
        { current := first, rest, world } 0 position kind
    rw [Nat.zero_add, ← record_eq_of_steps_eq registry world steps] at lacking
    rw [lacking]
    constructor
    · rintro ⟨stage, reaches, lacks⟩
      exact ⟨first, rest, stage, rfl, reaches, lacks⟩
    · rintro ⟨_, _, stage, ⟨⟩, reaches, lacks⟩
      exact ⟨stage, reaches, lacks⟩

/-- A run that comes to a stage that lacks an action is abandoned there. -/
theorem run_fresh_abandons
    {registry : Registry (StateM World)}
    (sink : Sink (StateM World))
    {document : Document}
    {first : Step}
    {rest : List Step}
    {world : World}
    {position : Nat}
    {stage : Stage World}
    {kind : ActionKind}
    (steps : document.steps = first :: rest)
    (reaches :
      Stage.Reaches registry { current := first, rest, world } position stage)
    (lacks : stage.Lacks registry kind) :
    ((run registry sink { document }).run world).1.Abandons
      ((run registry.journaled sink.journaled { document }).run { world }).2
      document position kind := by
  have left := run_fresh_document registry sink document world
  have state := run_fresh_state registry sink document world
  have calls := run_fresh_calls registry sink document world
  have orderly := Run.course_orderly registry [] document.steps world
  rcases reaches.drop_eq with ⟨own, handed, dropped, delivered⟩
  rcases reaches.told_of_lacks lacks 0 with
    ⟨turns, reply?, log, length, told, answered, record⟩
  rw [← record_eq_of_steps_eq registry world steps, Nat.zero_add] at record
  rw [record] at left state
  have unpersisted :
      ¬(Engine.record registry document world).ending.IsPersisted := by
    rw [record]
    exact id
  -- The document splits at the position into what has been performed, the step
  -- that lacks an action, and the steps behind it.
  rw [← steps] at dropped
  have here : document.steps[position]? = some own := by
    rw [← List.head?_drop, dropped]
    rfl
  have behind : document.steps.drop (position + 1) = stage.rest := by
    rw [← List.drop_drop, dropped]
    rfl
  have size : document.size = position + (stage.rest.length + 1) := by
    have lengths := congrArg List.length dropped
    rw [List.length_drop, List.length_cons] at lengths
    rw [Document.size]
    omega
  have course :
      ((Run.course registry [] document.steps).run world).1 =
        turns ++ [{ step := stage.current, reply? }] := by
    rw [steps, ← told]
    rfl
  rw [course] at calls orderly
  exact {
    events_eq := by
      rw [run_fresh_calls, run_fresh_events, if_neg unpersisted,
        List.append_nil, List.nil_append]
    state_eq := state
    results_eq := by
      rw [left, dropped]
      simp [Report.document, Function.comp_def, List.map_const', length,
        delivered]
    drop_eq := by
      rw [left, behind]
      dsimp only [Report.document]
      rw [List.append_cons]
      exact List.drop_left' (by simp [length])
    summary_eq := by
      rw [left]
      simp [Report.document, Report.summary, Ending.failedStep?,
        Ending.error?, length, size]
    uncalled := by
      intro call made same
      rw [calls] at made
      have registered := orderly.isSome_find?_of_mem_calls made
      rw [same, lacks.find?_eq_none] at registered
      cases registered
    called := by
      intro configured configuredHere other
      cases here.symm.trans configuredHere
      have kind : stage.current.kind = own.kind := by
        rw [delivered, Step.deliver_kind]
      rw [← kind] at other
      rcases answered other with ⟨result, rfl⟩
      refine ⟨stage.current, result, ?_, ?_⟩
      · rw [left]
        simp [Report.document, length]
      · rw [calls, List.flatMap_append, List.flatMap_singleton]
        exact List.getLast?_concat }

/-- A first run returns that no action answers to a kind exactly if it comes to
a stage that lacks one.  Then it leaves everything from this step on as it
was, and persists nothing. -/
theorem run_fresh_invalidAction_iff
    (registry : Registry (StateM World))
    (sink : Sink (StateM World))
    (document : Document)
    (world : World)
    (position : Nat)
    (kind : ActionKind) :
    let run := ((run registry sink { document }).run world).1
    let journal :=
      ((Engine.run registry.journaled sink.journaled { document }).run
        { world }).2
    (run.result = .error (.invalidAction (position + 1) kind) ↔
        ∃ first rest stage,
          document.steps = first :: rest ∧
            Stage.Reaches registry { current := first, rest, world }
              position stage ∧
            stage.Lacks registry kind) ∧
      (run.result = .error (.invalidAction (position + 1) kind) →
        run.Abandons journal document position kind) := by
  intro run journal
  dsimp only [run]
  rw [run_fresh_result_eq_invalidAction_iff,
    ending_record_eq_unregistered_iff]
  refine ⟨Iff.rfl, ?_⟩
  rintro ⟨first, rest, stage, steps, reaches, lacks⟩
  exact run_fresh_abandons sink steps reaches lacks

end Engine

end Scenario
