import Scenario.Proofs.Calls

/-!
# What a first run delivers

A run changes the arguments of a step only by handing on, from the step in
front, what the two kinds ask for.  The rule is stated here apart from the
program that follows it, in terms of what the calls of the step in front gave
and of the arguments that the run has left for that step.  The arguments
configured for a step stay together, in their order, at one of its ends.
-/

namespace Scenario

variable {World : Type}

/-- A step, called in a turn, hands these arguments on to a step of the given
kind. -/
def Turn.Forwards
    (turn : Turn)
    (current : Step)
    (next : ActionKind)
    (forwarded : List String) : Prop :=
  ∃ result,
    turn.reply? = some (.ok result) ∧
      let base := if result = "" then [] else [result]
      match current.kind, next with
      | .cTime, .condition => forwarded = base ++ current.arguments
      | .cTime, _ => forwarded = current.arguments
      | _, .condition =>
        ∃ stamp,
          turn.lookup? = some (.ok stamp) ∧ forwarded = [stamp] ++ base
      | _, _ => forwarded = base

/-- The arguments that a run has left are those configured, and between
neighbours of which both were called, what the first handed on. -/
structure Run.Delivered
    (configured left : List Step)
    (turns : List Turn) : Prop where
  kinds_eq : left.map Step.kind = configured.map Step.kind
  /-- The first step is handed nothing, nor is one whose turn did not come. -/
  untouched :
    ∀ position : Nat, position = 0 ∨ turns.length ≤ position →
      left[position]?.map Step.arguments =
        configured[position]?.map Step.arguments
  delivered :
    ∀ (position : Nat) (turn : Turn) (current next own : Step),
      position + 1 < turns.length →
      turns[position]? = some turn →
      left[position]? = some current →
      left[position + 1]? = some next →
      configured[position + 1]? = some own →
        ∃ forwarded,
          turn.Forwards current next.kind forwarded ∧
            next.arguments =
              if next.kind = .condition then own.arguments ++ forwarded
              else forwarded ++ own.arguments

theorem forwardedBase_eq (result : String) :
    forwardedBase result = if result = "" then [] else [result] := by
  simp [forwardedBase]

/-- A turn that passes hands on what the rule says. -/
theorem Turn.forwards_of_passed
    {turn : Turn}
    {current : Step}
    (called : current.unmarked = turn.step.unmarked)
    {next : ActionKind}
    {handed : List String}
    (passed : turn.verdict (some next) = .passed handed) :
    turn.Forwards current next handed := by
  rw [Step.unmarked_eq_unmarked_iff] at called
  rcases called with ⟨kind, arguments⟩
  unfold Turn.verdict at passed
  split at passed
  · cases passed
  · cases passed
  · cases passed
  · rename_i result answered
    refine ⟨result, answered, ?_⟩
    rw [← forwardedBase_eq, kind, arguments]
    revert passed
    simp only [Turn.handover]
    cases turn.step.kind <;> cases next <;>
      simp only [Forwarding.forPair, Verdict.passed.injEq] <;>
      first
      | exact fun handed => handed.symm
      | split <;> simp_all

namespace Run

variable {registry : Registry (StateM World)}

theorem Orderly.delivered
    {list : List Step}
    {turns : List Turn}
    (orderly : Orderly registry [] list turns)
    (position : Nat) :
    Delivered list (tell position turns list).steps turns where
  kinds_eq := orderly.map_kind_steps_tell position
  untouched := by
    intro index place
    -- What asks for the same has the same arguments.
    have same :
        (tell position turns list).steps[index]?.map Step.unmarked =
          list[index]?.map Step.unmarked := by
      rcases Nat.lt_or_ge index turns.length with inside | outside
      · have first : index = 0 := place.resolve_right (by omega)
        subst first
        have here := List.getElem?_eq_getElem inside
        rcases orderly.step_zero here with ⟨step, configured, called⟩
        rw [Step.deliver_nil] at called
        rw [orderly.unmarked_getElem?_tell position here, called, configured]
        rfl
      · exact orderly.unmarked_getElem?_tell_of_length_le position outside
    have arguments := congrArg (Option.map Step.arguments) same
    rw [Option.map_map, Option.map_map] at arguments
    exact arguments
  delivered := by
    intro index turn current next own inside here left leftNext configured
    have following := List.getElem?_eq_getElem inside
    rcases orderly.passed_getElem? here following with
      ⟨step, handed, behind, passed, delivered⟩
    cases configured.symm.trans behind
    have called := orderly.unmarked_getElem?_tell position here
    have calledNext := orderly.unmarked_getElem?_tell position following
    rw [left, Option.map_some, Option.some_inj] at called
    rw [leftNext, Option.map_some, Option.some_inj,
      Step.unmarked_eq_unmarked_iff, delivered, Step.deliver_kind] at calledNext
    rcases calledNext with ⟨kind, arguments⟩
    refine ⟨handed, ?_, ?_⟩
    · rw [kind]
      exact Turn.forwards_of_passed called passed
    · rw [arguments, kind]
      exact Step.deliver_arguments own handed

/-- No configured argument is lost, moved among the others or doubled. -/
theorem Delivered.kept
    {configured left : List Step}
    {turns : List Turn}
    (delivered : Delivered configured left turns)
    {position : Nat}
    {own step : Step}
    (before : configured[position]? = some own)
    (after : left[position]? = some step) :
    if step.kind = .condition then own.arguments <+: step.arguments
    else own.arguments <:+ step.arguments := by
  by_cases handed : 0 < position ∧ position < turns.length
  · rcases handed with ⟨positive, inside⟩
    rcases Nat.exists_eq_add_of_lt positive with ⟨previous, rfl⟩
    rw [Nat.zero_add] at *
    have place : previous + 1 < left.length :=
      (List.getElem?_eq_some_iff.mp after).1
    have here := List.getElem?_eq_getElem (Nat.lt_of_succ_lt inside)
    have there := List.getElem?_eq_getElem (Nat.lt_of_succ_lt place)
    rcases
        delivered.delivered previous _ _ step own inside here there after
          before with
      ⟨forwarded, -, arguments⟩
    rw [arguments]
    split
    · exact List.prefix_append _ _
    · exact List.suffix_append _ _
  · have untouched := delivered.untouched position (by omega)
    rw [before, after, Option.map_some, Option.map_some,
      Option.some_inj] at untouched
    rw [untouched]
    split
    · exact List.prefix_rfl
    · exact List.suffix_rfl

end Run

namespace Engine

/-- The first run of a document, whatever its actions and its sink do, hands on
arguments by the rule, and changes those of no step otherwise. -/
theorem run_fresh_delivers
    (registry : Registry (StateM World))
    (sink : Sink (StateM World))
    (document : Document)
    (world : World) :
    let run := ((run registry sink { document }).run world).1
    let journal :=
      ((Engine.run registry.journaled sink.journaled { document }).run
        { world }).2
    ∃ turns,
      turns.length = run.reached ∧
        Run.CallsInOrder registry run.engine.document.steps turns
          journal.calls ∧
        Run.Delivered document.steps run.engine.document.steps turns ∧
        ∀ (position : Nat) (own step : Step),
          document.steps[position]? = some own →
            run.engine.document.steps[position]? = some step →
              if step.kind = .condition then own.arguments <+: step.arguments
              else own.arguments <:+ step.arguments := by
  intro run journal
  have orderly := Run.course_orderly registry [] document.steps world
  have steps : run.engine.document.steps = _ :=
    run_fresh_steps registry sink document world
  have delivered := orderly.delivered 0
  refine ⟨_, (run_fresh_reached registry sink document world).symm, ?_⟩
  rw [steps, run_fresh_calls]
  refine ⟨orderly.callsInOrder 0, delivered, ?_⟩
  intro position own step before after
  exact delivered.kept before after

end Engine

end Scenario
