import Scenario.Proofs.Journal
import Scenario.Proofs.Stage

/-!
# What calls do

A run changes its world by its calls and by nothing else: the world that it
leaves, and every world on the way, is what the calls leave that were made so
far when they are made one after the other.
-/

namespace Scenario

variable {World : Type}

/-- The world that calls leave which are made one after the other. -/
def Registry.afterCalls
    (registry : Registry (StateM World))
    (calls : List Call)
    (world : World) :
    World :=
  calls.foldl
    (fun world call => ((registry.ask call.kind call.arguments).run world).2)
    world

namespace Registry

variable (registry : Registry (StateM World))

@[simp]
theorem afterCalls_append (front back : List Call) (world : World) :
    registry.afterCalls (front ++ back) world =
      registry.afterCalls back (registry.afterCalls front world) :=
  List.foldl_append

/-- To ask for an action that is not there changes nothing. -/
theorem ask_snd_of_eq_none
    {kind : ActionKind}
    {arguments : List String}
    {world : World}
    (silent : ((registry.ask kind arguments).run world).1 = none) :
    ((registry.ask kind arguments).run world).2 = world := by
  rw [ask_eq_none_iff] at silent
  simp only [ask, StateT.run, silent]

/-- The call that was made is all that asking has done. -/
theorem afterCalls_ask
    (kind : ActionKind)
    (arguments : List String)
    (world : World) :
    let asked := (registry.ask kind arguments).run world
    registry.afterCalls (asked.1.map (Call.mk kind arguments)).toList world =
      asked.2 := by
  intro asked
  cases made : asked.1 with
  | none => exact (registry.ask_snd_of_eq_none made).symm
  | some reply => rfl

end Registry

namespace Run

variable (registry : Registry (StateM World))

theorem turn_run_snd
    (current : Step)
    (next? : Option ActionKind)
    (world : World) :
    let taken := (turn registry current next?).run world
    taken.2 = registry.afterCalls taken.1.calls world := by
  intro taken
  have own :=
    registry.afterCalls_ask current.kind current.arguments world
  dsimp only [taken]
  rw [turn_run]
  revert own
  generalize (registry.ask current.kind current.arguments).run world = asked
  rcases asked with ⟨_ | (error | result), after⟩
  · intro own
    exact own.symm
  · intro own
    exact own.symm
  · intro own
    cases next? with
    | none => exact own.symm
    | some next =>
      dsimp only
      split
      · -- The look-up is made in the world that the own call has left.
        rw [Turn.calls, registry.afterCalls_append]
        have lookup :=
          registry.afterCalls_ask .cTime (forwardedBase result) after
        exact lookup.symm.trans
          (congrArg (registry.afterCalls _) own.symm)
      · exact own.symm

/-- A course leaves the world that its calls leave. -/
theorem course_run_snd
    (forwarded : List String)
    (list : List Step)
    (world : World) :
    let told := (course registry forwarded list).run world
    told.2 = registry.afterCalls (told.1.flatMap Turn.calls) world := by
  induction list generalizing forwarded world with
  | nil => rfl
  | cons current rest induction =>
    have taken :=
      turn_run_snd registry (current.deliver forwarded)
        (rest.head?.map Step.kind) world
    rw [course_run_cons]
    revert taken
    generalize
      (turn registry (current.deliver forwarded)
        (rest.head?.map Step.kind)).run world = turned
    intro taken
    cases turned.1.verdict (rest.head?.map Step.kind) with
    | passed handed =>
      dsimp only at taken ⊢
      rw [List.flatMap_cons, registry.afterCalls_append, ← taken]
      exact induction handed turned.2
    | conditionFalse => simpa using taken
    | stopped obstacle => simpa using taken

end Run

/-- The world of a stage is what the calls of the turns in front have left. -/
theorem Stage.Reaches.world_eq
    {registry : Registry (StateM World)}
    {stage reached : Stage World}
    {count : Nat}
    (reaches : stage.Reaches registry count reached) :
    reached.world =
      registry.afterCalls
        (((stage.told registry).take count).flatMap Turn.calls)
        stage.world := by
  induction reaches with
  | here => rfl
  | @step start next rest result after _ count _ following answered handed _
      induction =>
    have crossed :=
      Run.turn_run_snd registry start.current (some next.kind) start.world
    rw [Run.turn_run_cross registry _ _ _ answered] at crossed
    rw [told_ahead following answered handed, List.take_succ_cons,
      List.flatMap_cons, registry.afterCalls_append, ← crossed]
    exact induction

namespace Engine

/-- The steps of a first run leave the world that its calls leave. -/
theorem steps_run_snd
    (registry : Registry (StateM World))
    (sink : Sink (StateM World))
    (document : Document)
    (world : World) :
    let journal :=
      ((run registry.journaled sink.journaled { document }).run { world }).2
    ((Run.steps registry document.steps).run world).2 =
      registry.afterCalls journal.calls world := by
  intro journal
  dsimp only [journal]
  rw [run_fresh_calls, (Run.steps_run registry document.steps world).2]
  exact Run.course_run_snd registry [] document.steps world

end Engine

end Scenario
