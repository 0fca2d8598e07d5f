import Scenario.Proofs.Actions
import Scenario.Proofs.Balance
import Scenario.Proofs.Calls
import Scenario.Proofs.Effects

/-!
# What failed steps leave behind

A built-in action that fails leaves the host as it was, and so does every
condition and every change time.  What a run leaves is therefore what the steps
have done that it marks as succeeded, and nothing else, with one exception: a
step whose own action gave a result is marked as failed if the change time that
the condition behind it needs cannot be looked up, and what it has done stays.
-/

namespace Scenario

variable {World : Type}

/-! ## Steps one after the other -/

/-- The world that is left when steps are called one after the other on their
arguments. -/
def Registry.afterSteps
    (registry : Registry (StateM World))
    (steps : List Step)
    (world : World) :
    World :=
  steps.foldl
    (fun world step => ((registry.ask step.kind step.arguments).run world).2)
    world

namespace Registry

variable (registry : Registry (StateM World))

/-- What steps do does not depend on their marks. -/
theorem afterSteps_map_unmarked (steps : List Step) (world : World) :
    registry.afterSteps (steps.map Step.unmarked) world =
      registry.afterSteps steps world :=
  List.foldl_map

/-- An action that fails leaves the world as it was, and conditions and change
times leave it so in any case. -/
structure Atomic : Prop where
  failed :
    ∀ kind arguments world error,
      let asked := (registry.ask kind arguments).run world
      asked.1 = some (.error error) → asked.2 = world
  quiet :
    ∀ kind arguments world,
      kind = .condition ∨ kind = .cTime →
        ((registry.ask kind arguments).run world).2 = world

end Registry

/-! ## The built-in actions -/

namespace Host

theorem change_run_snd_of_error
    {operation : FileTree → Int → Except IoError FileTree}
    {host : Host}
    {error : IoError}
    (refused : ((change operation).run host).1 = .error error) :
    ((change operation).run host).2 = host := by
  cases outcome : operation host.files host.second with
  | error cause =>
    exact congrArg Prod.snd (change_snd_of_error outcome)
  | ok files =>
    have done : ((change operation).run host).1 = .ok () := by
      rw [StateT.run, change, outcome]
    rw [done] at refused
    cases refused

end Host

namespace BuiltIn

theorem exists_error_of_reply
    {kind : ActionKind}
    {path result : String}
    {log : List LogEvent}
    {outcome : Except IoError Unit}
    {error : ActionError}
    (failed : (reply kind path result log outcome).value = .error error) :
    ∃ cause, outcome = .error cause := by
  cases outcome with
  | error cause => exact ⟨cause, rfl⟩
  | ok done => cases failed

/-- An action that changes the tree and replies by what has come of it leaves
the host as it was when it fails. -/
theorem snd_of_reply
    {operation : FileTree → Int → Except IoError FileTree}
    {host : Host}
    {kind : ActionKind}
    {path result : String}
    {log : List LogEvent}
    {error : ActionError}
    (failed :
      (reply kind path result log
        ((Host.change operation).run host).1).value = .error error) :
    ((Host.change operation).run host).2 = host := by
  rcases exists_error_of_reply failed with ⟨cause, refused⟩
  exact Host.change_run_snd_of_error refused

section

variable
    {host : Host}
    {arguments : List String}
    {error : ActionError}

theorem create_snd_of_error
    (failed :
      ((create arguments : StateM Host _).run host).1.value = .error error) :
    ((create arguments : StateM Host _).run host).2 = host := by
  by_cases fits : arguments.length = 1
  · rcases List.length_eq_one_iff.mp fits with ⟨path, rfl⟩
    rw [create_run] at failed ⊢
    exact snd_of_reply failed
  · rw [run_of_length_ne .create rfl rfl fits]

theorem remove_snd_of_error
    (failed :
      ((remove arguments : StateM Host _).run host).1.value = .error error) :
    ((remove arguments : StateM Host _).run host).2 = host := by
  by_cases fits : arguments.length = 1
  · rcases List.length_eq_one_iff.mp fits with ⟨path, rfl⟩
    rw [remove_run] at failed ⊢
    exact snd_of_reply failed
  · rw [run_of_length_ne .remove rfl rfl fits]

theorem rename_snd_of_error
    (failed :
      ((rename arguments : StateM Host _).run host).1.value = .error error) :
    ((rename arguments : StateM Host _).run host).2 = host := by
  by_cases fits : arguments.length = 2
  · match arguments, fits with
    | [path, newPath], _ =>
      rw [rename_run] at failed ⊢
      exact snd_of_reply failed
  · rw [run_of_length_ne .rename rfl rfl fits]

theorem write_snd_of_error
    (failed :
      ((write arguments : StateM Host _).run host).1.value = .error error) :
    ((write arguments : StateM Host _).run host).2 = host := by
  cases arguments with
  | nil => rfl
  | cons path lines =>
    rw [write_run] at failed ⊢
    split at failed
    · rfl
    · exact snd_of_reply failed

end

theorem registry_atomic : (registry : Registry (StateM Host)).Atomic where
  failed := by
    intro kind arguments host error asked failed
    cases kind with
    | unknown => rfl
    | condition => rfl
    | create => exact create_snd_of_error (Option.some.inj failed)
    | remove => exact remove_snd_of_error (Option.some.inj failed)
    | rename => exact rename_snd_of_error (Option.some.inj failed)
    | write => exact write_snd_of_error (Option.some.inj failed)
    | cTime => exact changeTime_run_snd host arguments
  quiet := by
    rintro kind arguments host (rfl | rfl)
    · rfl
    · exact changeTime_run_snd host arguments

end BuiltIn

/-! ## The turns of a run -/

namespace Turn

/-- The action of the step was called, and has failed.  So does a condition that
does not hold. -/
def FailsItself (turn : Turn) : Prop :=
  ∃ error, turn.ownCall?.map Call.reply = some (.error error)

/-- A change time was looked up behind the call of the step, in vain. -/
def FailsInLookup (turn : Turn) : Prop :=
  ∃ error, turn.lookupCall?.map Call.reply = some (.error error)

theorem failsItself_of_reply?
    {turn : Turn}
    {error : ActionError}
    (failed : turn.reply? = some (.error error)) :
    turn.FailsItself :=
  ⟨error, by simp [ownCall?, failed]⟩

theorem failsInLookup_of_lookup?
    {turn : Turn}
    {result : String}
    {error : ActionError}
    (answered : turn.reply? = some (.ok result))
    (failed : turn.lookup? = some (.error error)) :
    turn.FailsInLookup :=
  ⟨error, by simp [lookupCall?, answered, failed]⟩

theorem FailsItself.exists_reply?
    {turn : Turn}
    (fails : turn.FailsItself) :
    ∃ error, turn.reply? = some (.error error) := by
  rcases fails with ⟨error, failed⟩
  refine ⟨error, ?_⟩
  simpa [ownCall?, Function.comp_def] using failed

theorem FailsItself.verdict_ne_passed
    {turn : Turn}
    (fails : turn.FailsItself)
    (next? : Option ActionKind)
    (handed : List String) :
    turn.verdict next? ≠ .passed handed := by
  rcases fails.exists_reply? with ⟨error, failed⟩
  rw [verdict, failed]
  intro passed
  cases error <;> cases passed

variable {registry : Registry (StateM World)}

/-- A turn does what its step does if look-ups do nothing. -/
theorem afterCalls_calls
    (atomic : registry.Atomic)
    {current : Step}
    {next? : Option ActionKind}
    {turn : Turn}
    (regular : turn.Regular registry current next?)
    (world : World) :
    registry.afterCalls turn.calls world =
      registry.afterSteps [turn.step] world := by
  have lookup (world : World) :
      registry.afterCalls turn.lookupCall?.toList world = world := by
    unfold lookupCall?
    split
    · cases turn.lookup? with
      | none => rfl
      | some reply => exact atomic.quiet .cTime _ _ (.inr rfl)
    · rfl
  rw [calls, registry.afterCalls_append, lookup]
  cases replied : turn.reply? with
  | none =>
    have absent := regular.reply?_eq_none_iff.mp replied
    rw [← regular.step_eq] at absent
    have silent :
        ((registry.ask turn.step.kind turn.step.arguments).run world).1 =
          none :=
      (registry.ask_eq_none_iff _ _ _).mpr absent
    rw [ownCall?, replied]
    exact (registry.ask_snd_of_eq_none silent).symm
  | some reply =>
    rw [ownCall?, replied]
    rfl

end Turn

namespace Run

variable {registry : Registry (StateM World)}

/-- The first turns of a run do what the steps do that the run has left in their
places. -/
theorem Orderly.afterSteps_take
    (atomic : registry.Atomic)
    {forwarded : List String}
    {list : List Step}
    {turns : List Turn}
    (orderly : Orderly registry forwarded list turns)
    (position count : Nat)
    (reached : count ≤ turns.length)
    (world : World) :
    registry.afterSteps ((tell position turns list).steps.take count) world =
      registry.afterCalls ((turns.take count).flatMap Turn.calls) world := by
  have left :
      ((tell position turns list).steps.take count).map Step.unmarked =
        ((turns.take count).map Turn.step).map Step.unmarked := by
    rw [List.map_take, orderly.unmarked_steps_tell, List.map_append,
      List.take_append_of_le_length (by simpa using reached), ← List.map_take,
      ← List.map_take]
  have each (turn : Turn) (member : turn ∈ turns.take count) :
      ∃ current next?, turn.Regular registry current next? := by
    rcases List.getElem?_of_mem (List.mem_of_mem_take member) with
      ⟨index, here⟩
    rcases orderly.regular_getElem? here with ⟨step, handed, -, regular⟩
    exact ⟨_, _, regular⟩
  rw [← registry.afterSteps_map_unmarked, left,
    registry.afterSteps_map_unmarked]
  generalize turns.take count = front at each
  induction front generalizing world with
  | nil => rfl
  | cons turn front induction =>
    rcases each turn (.head _) with ⟨current, next?, regular⟩
    rw [List.flatMap_cons, registry.afterCalls_append,
      Turn.afterCalls_calls atomic regular,
      ← induction _ fun turn member => each turn (.tail _ member)]
    rfl

/-- A turn in which the action of the step fails changes nothing. -/
theorem turn_run_snd_of_failsItself
    (atomic : registry.Atomic)
    (current : Step)
    (next? : Option ActionKind)
    (world : World) :
    let taken := (turn registry current next?).run world
    taken.1.FailsItself → taken.2 = world := by
  intro taken fails
  rcases fails.exists_reply? with ⟨error, failed⟩
  have unchanged :=
    atomic.failed current.kind current.arguments world error
  dsimp only [taken] at failed ⊢
  rw [turn_run] at failed ⊢
  revert failed unchanged
  generalize (registry.ask current.kind current.arguments).run world = own
  rcases own with ⟨_ | (cause | result), after⟩
  · intro failed
    cases failed
  · intro failed unchanged
    exact unchanged failed
  · cases next? with
    | none =>
      intro failed
      cases failed
    | some next =>
      dsimp only
      split
      · intro failed
        cases failed
      · intro failed
        cases failed

/-- A course whose last turn fails by its own action leaves what the turns in
front have left. -/
theorem course_run_snd_of_failsItself
    (atomic : registry.Atomic)
    (forwarded : List String)
    (list : List Step)
    (world : World)
    {last : Turn} :
    let told := (course registry forwarded list).run world
    told.1.getLast? = some last → last.FailsItself →
      told.2 =
        registry.afterCalls (told.1.dropLast.flatMap Turn.calls) world := by
  intro told here fails
  dsimp only [told] at here ⊢
  induction list generalizing forwarded world with
  | nil => cases here
  | cons current rest induction =>
    have unchanged :=
      turn_run_snd_of_failsItself atomic (current.deliver forwarded)
        (rest.head?.map Step.kind) world
    have taken :=
      turn_run_snd registry (current.deliver forwarded)
        (rest.head?.map Step.kind) world
    rw [course_run_cons] at here ⊢
    revert here unchanged taken
    generalize
      (turn registry (current.deliver forwarded)
        (rest.head?.map Step.kind)).run world = turned
    intro here unchanged taken
    cases verdict : turned.1.verdict (rest.head?.map Step.kind) with
    | passed handed =>
      rw [verdict] at here
      dsimp only at here taken ⊢
      have behind := induction handed turned.2
      revert here behind
      generalize (course registry handed rest).run turned.2 = told
      intro here behind
      rcases told with ⟨_ | ⟨next, turns⟩, after⟩
      · cases here
        exact (fails.verdict_ne_passed _ _ verdict).elim
      · rw [List.getLast?_cons_cons] at here
        dsimp only
        rw [List.dropLast_cons_cons, List.flatMap_cons,
          registry.afterCalls_append, ← taken]
        exact behind here
    | conditionFalse =>
      rw [verdict] at here
      cases here
      exact unchanged fails
    | stopped obstacle =>
      rw [verdict] at here
      cases here
      exact unchanged fails

end Run

/-! ## What runs leave behind -/

/-- The steps that are marked as succeeded. -/
def Document.succeeded (document : Document) : List Step :=
  document.steps.filter fun step => step.result? = some .success

/-- A run has failed at the step at a position, in the given turn, and has left
this document and this world. -/
structure Run.FailureTraces
    (registry : Registry (StateM World))
    (turn : Turn)
    (position : Nat)
    (left : Document)
    (before after : World) : Prop where
  cause : turn.FailsItself ∨ turn.FailsInLookup
  /-- A step that fails by its own action leaves nothing behind. -/
  itself :
    turn.FailsItself → after = registry.afterSteps left.succeeded before
  /-- A step that has no change time looked up for it has done its work. -/
  lookup :
    turn.FailsInLookup →
      after = registry.afterSteps (left.steps.take (position + 1)) before
  succeeded_eq : left.succeeded = left.steps.take position
  failed : ∀ step ∈ left.steps.drop position, step.result? = some .failed

namespace Report.Balanced

variable
    {report : Report}
    {total : Nat}
    (balanced : report.Balanced total)

include balanced

theorem map_result?_take :
    (report.steps.take report.success).map Step.result? =
      List.replicate report.success (some .success) := by
  rw [List.map_take, balanced.results_eq]
  exact List.take_left' List.length_replicate

theorem map_result?_drop :
    (report.steps.drop report.success).map Step.result? =
      List.replicate report.failed (some .failed) := by
  rw [List.map_drop, balanced.results_eq]
  exact List.drop_left' List.length_replicate

theorem result?_of_mem_drop
    {step : Step}
    (member : step ∈ report.steps.drop report.success) :
    step.result? = some .failed := by
  have marked : step.result? ∈
      (report.steps.drop report.success).map Step.result? :=
    List.mem_map_of_mem member
  rw [balanced.map_result?_drop] at marked
  exact List.eq_of_mem_replicate marked

/-- The successes of a record are its first steps. -/
theorem succeeded_document :
    report.document.succeeded = report.steps.take report.success := by
  have first :
      ∀ step ∈ report.steps.take report.success,
        step.result? = some .success := by
    intro step member
    have marked : step.result? ∈
        (report.steps.take report.success).map Step.result? :=
      List.mem_map_of_mem member
    rw [balanced.map_result?_take] at marked
    exact List.eq_of_mem_replicate marked
  have others :
      ∀ step ∈ report.steps.drop report.success,
        ¬step.result? = some .success := by
    intro step member
    rw [balanced.result?_of_mem_drop member]
    exact nofun
  calc
    report.document.succeeded
    _ = (report.steps.take report.success ++
          report.steps.drop report.success).filter
            fun step => step.result? = some .success := by
      rw [List.take_append_drop]
      rfl
    _ = report.steps.take report.success := by
      rw [List.filter_append, List.filter_eq_self.mpr (by simpa using first),
        List.filter_eq_nil_iff.mpr (by simpa using others), List.append_nil]

end Report.Balanced

namespace Engine

section

variable
    {registry : Registry (StateM World)}
    (atomic : registry.Atomic)
    (document : Document)
    (world : World)

include atomic

/-- The calls of a run do what the steps do whose turn has come. -/
theorem steps_run_snd_eq_afterSteps :
    let told := (Run.course registry [] document.steps).run world
    ((Run.steps registry document.steps).run world).2 =
      registry.afterSteps
        ((record registry document world).steps.take told.1.length)
        world := by
  intro told
  have orderly := Run.course_orderly registry [] document.steps world
  have taken :=
    orderly.afterSteps_take atomic 0 told.1.length Nat.le.refl world
  rw [List.take_length] at taken
  rw [(Run.steps_run registry document.steps world).2,
    Run.course_run_snd registry [] document.steps world]
  exact taken.symm

theorem steps_run_snd_of_falseCondition
    {position : Nat}
    (ending :
      (record registry document world).ending = .falseCondition position) :
    ((Run.steps registry document.steps).run world).2 =
      registry.afterSteps
        (record registry document world).document.succeeded world := by
  have orderly := Run.course_orderly registry [] document.steps world
  have persisted : (record registry document world).ending.IsPersisted := by
    rw [ending]
    trivial
  have balanced := record_balanced registry document world persisted
  have success := balanced.success_eq
  have reached := orderly.reached_tell 0
  rw [← record, ending, Nat.zero_add, Nat.zero_add] at reached
  rw [ending] at success
  rw [steps_run_snd_eq_afterSteps atomic, balanced.succeeded_document,
    success, ← reached]
  rfl

/-- A run that fails leaves what its successes have done, and what the step at
which it fails has done if only a look-up has failed. -/
theorem exists_failureTraces
    {position : Nat}
    {error : ActionError}
    (ending :
      (record registry document world).ending = .failed position error) :
    let told := (Run.course registry [] document.steps).run world
    told.1.length = position + 1 ∧
      ∃ turn,
        told.1.getLast? = some turn ∧
          Run.FailureTraces registry turn position
            (record registry document world).document world
            ((Run.steps registry document.steps).run world).2 := by
  intro told
  have orderly := Run.course_orderly registry [] document.steps world
  have persisted : (record registry document world).ending.IsPersisted := by
    rw [ending]
    trivial
  have balanced := record_balanced registry document world persisted
  have success : (record registry document world).success = position := by
    rw [balanced.success_eq, ending]
    rfl
  have length : told.1.length = position + 1 := by
    have reached := orderly.reached_tell 0
    rw [← record, ending, Nat.zero_add, Nat.zero_add] at reached
    exact reached.symm
  have ends :
      (record registry document world).ending.verdict? =
        some (.stopped (.failure error)) := by
    rw [ending]
    rfl
  rcases orderly.exists_getLast?_of_verdict? ends with
    ⟨turn, next?, last, stopped⟩
  refine ⟨length, turn, last, {
    cause := ?_
    itself := ?_
    lookup := ?_
    succeeded_eq := by
      rw [balanced.succeeded_document, success]
      rfl
    failed := by
      rw [← success]
      intro step member
      exact balanced.result?_of_mem_drop member }⟩
  · rcases Turn.replies_of_failure stopped with
      ⟨failed, -⟩ | ⟨⟨result, answered⟩, failed⟩
    · exact .inl (Turn.failsItself_of_reply? failed)
    · exact .inr (Turn.failsInLookup_of_lookup? answered failed)
  · intro fails
    have inside : position ≤ told.1.length := by omega
    have front := orderly.afterSteps_take atomic 0 position inside world
    have left :=
      Run.course_run_snd_of_failsItself atomic [] document.steps world last
        fails
    rw [List.dropLast_eq_take, length, Nat.add_sub_cancel] at left
    rw [balanced.succeeded_document, success,
      (Run.steps_run registry document.steps world).2, left]
    exact front.symm
  · intro fails
    rw [steps_run_snd_eq_afterSteps atomic, length]
    rfl

end

/-- The first run of a document with the built-in actions, whatever its sink
does, leaves on the host what its successes have done.  If it fails since a
change time is looked up in vain, it leaves besides what the step in front of
the condition has done. -/
theorem run_fresh_leaves_successes
    (sink : Sink (StateM Host))
    (document : Document)
    (host : Host) :
    let registry : Registry (StateM Host) := BuiltIn.registry
    let run := ((run registry sink { document }).run host).1
    let left := ((Run.steps registry document.steps).run host).2
    let journal :=
      ((Engine.run registry.journaled sink.journaled { document }).run
        { world := host }).2
    registry.Atomic ∧
      ∃ turns,
        turns.length = run.reached ∧
          Run.CallsInOrder registry run.engine.document.steps turns
            journal.calls ∧
          (run.engine.state = .stoppedAtFalseCondition →
            left = registry.afterSteps run.engine.document.succeeded host) ∧
          ∀ position,
            run.engine.state = .stoppedAtFailure →
            run.engine.document.summary.failedStep? = some (position + 1) →
              turns.length = position + 1 ∧
                ∃ turn,
                  turns.getLast? = some turn ∧
                    Run.FailureTraces registry turn position
                      run.engine.document host left := by
  intro registry run left journal
  have atomic : registry.Atomic := BuiltIn.registry_atomic
  have orderly := Run.course_orderly registry [] document.steps host
  have kept : run.engine.document = _ :=
    run_fresh_document registry sink document host
  have steps : run.engine.document.steps = _ :=
    run_fresh_steps registry sink document host
  have state : run.engine.state = _ :=
    run_fresh_state registry sink document host
  refine ⟨atomic, _,
    (run_fresh_reached registry sink document host).symm, ?_, ?_, ?_⟩
  · rw [steps, run_fresh_calls]
    exact orderly.callsInOrder 0
  · intro stopped
    rw [state] at stopped
    rw [kept]
    cases ending : (record registry document host).ending with
    | falseCondition position =>
      exact steps_run_snd_of_falseCondition atomic document host ending
    | _ =>
      rw [ending] at stopped
      cases stopped
  · intro position stopped failedStep
    have recorded :
        (record registry document host).ending.failedStep? =
          some (position + 1) := by
      rw [kept] at failedStep
      exact failedStep
    rw [state] at stopped
    rw [kept]
    cases ending : (record registry document host).ending with
    | failed place error =>
      rw [ending] at recorded
      cases recorded
      exact exists_failureTraces atomic document host ending
    | unregistered place kind =>
      rw [ending] at recorded
      cases recorded
    | _ =>
      rw [ending] at stopped
      cases stopped

end Engine

end Scenario
