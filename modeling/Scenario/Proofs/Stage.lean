import Scenario.Proofs.Approach
import Scenario.Proofs.Crossing

/-!
# Stages

A run stands at a stage when the turn of a step comes.  It moves on from there
if the step gives a result, and the arguments for the step behind can be handed
on.  A record ends at a kind without an action exactly if such moves lead to a
stage that lacks one; the change times that a condition asks for are looked up
in the turn of the step in front of it, which may lack an action for them.
-/

namespace Scenario

variable {World : Type}

/-- Where a run stands when the turn of a step comes. -/
structure Stage (World : Type) where
  /-- The step, with what it has been handed. -/
  current : Step
  /-- The steps behind it. -/
  rest : List Step
  world : World

namespace Stage

/-- The stage behind a step that has handed arguments on. -/
def ahead
    (next : Step)
    (rest : List Step)
    (forwarded : List String)
    (world : World) :
    Stage World where
  current := next.deliver forwarded
  rest
  world

/-- A run comes from one stage to another by so many steps, each of which gives
a result and has its arguments handed on. -/
inductive Reaches (registry : Registry (StateM World)) :
    Stage World → Nat → Stage World → Prop where
  | here {stage} : Reaches registry stage 0 stage
  | step {start next rest result after forwarded count stage}
      (following : start.rest = next :: rest)
      (answered :
        (registry.ask start.current.kind start.current.arguments).run
          start.world = (some (.ok result), after))
      (handed :
        (Run.cross registry start.current result next.kind after).handed =
          .ok forwarded)
      (behind :
        Reaches registry
          (ahead next rest forwarded
            (Run.cross registry start.current result next.kind after).world)
          count stage) :
      Reaches registry start (count + 1) stage

/-- The turn of the step needs an action of a kind that has none. -/
inductive Lacks
    (registry : Registry (StateM World))
    (stage : Stage World) :
    ActionKind → Prop where
  /-- The step itself cannot be called. -/
  | own (unregistered : registry.find? stage.current.kind = none) :
    Lacks registry stage stage.current.kind
  /-- The step has given a result, but the condition behind it needs a change
  time. -/
  | lookup {next rest result after}
      (following : stage.rest = next :: rest)
      (answered :
        (registry.ask stage.current.kind stage.current.arguments).run
          stage.world = (some (.ok result), after))
      (other : stage.current.kind ≠ .cTime)
      (isCondition : next.kind = .condition)
      (unregistered : registry.find? .cTime = none) :
    Lacks registry stage .cTime

/-- The turns of a run from a stage on. -/
def told
    (registry : Registry (StateM World))
    (stage : Stage World) :
    List Turn :=
  ((Run.course registry [] (stage.current :: stage.rest)).run stage.world).1

/-- The record of these turns. -/
def record
    (registry : Registry (StateM World))
    (position : Nat)
    (stage : Stage World) :
    Report :=
  Run.tell position (stage.told registry) (stage.current :: stage.rest)

section

variable
    {registry : Registry (StateM World)}
    {stage : Stage World}

/-! ## One step ahead -/

section

variable
    {next : Step}
    {rest : List Step}
    {result : String}
    {after : World}
    {forwarded : List String}
    (following : stage.rest = next :: rest)
    (answered :
      (registry.ask stage.current.kind stage.current.arguments).run
        stage.world = (some (.ok result), after))
    (handed :
      (Run.cross registry stage.current result next.kind after).handed =
        .ok forwarded)

include following answered handed

theorem told_ahead :
    let crossing := Run.cross registry stage.current result next.kind after
    stage.told registry =
      { step := stage.current
        reply? := some (.ok result)
        lookup? := crossing.lookup?.map Call.reply } ::
        (ahead next rest forwarded crossing.world).told registry := by
  unfold told ahead
  rw [following, Run.course_run_cross, Step.deliver_nil, answered]
  dsimp only
  rw [handed, Run.course_deliver]

theorem record_ahead (position : Nat) :
    let crossing := Run.cross registry stage.current result next.kind after
    stage.record registry position =
      ((ahead next rest forwarded crossing.world).record registry
        (position + 1)).after stage.current [] := by
  unfold record
  rw [told_ahead following answered handed, following]
  dsimp only [ahead]
  rw [Run.tell_cross, handed,
    Run.tell_head (position + 1) _ (next.deliver forwarded) next]

end

/-- The turn of a step that has given a result is the last if nothing can be
handed on from it. -/
theorem told_barred
    {next : Step}
    {rest : List Step}
    {result : String}
    {after : World}
    {obstacle : Obstacle}
    (following : stage.rest = next :: rest)
    (answered :
      (registry.ask stage.current.kind stage.current.arguments).run
        stage.world = (some (.ok result), after))
    (barred :
      (Run.cross registry stage.current result next.kind after).handed =
        .error obstacle) :
    let crossing := Run.cross registry stage.current result next.kind after
    stage.told registry = [{
      step := stage.current
      reply? := some (.ok result)
      lookup? := crossing.lookup?.map Call.reply }] ∧
      ∀ position,
        stage.record registry position =
          Run.stop position [] (stage.current :: stage.rest) obstacle := by
  intro crossing
  unfold record told
  rw [following, Run.course_run_cross, Step.deliver_nil, answered]
  dsimp only
  rw [barred]
  refine ⟨rfl, fun position => ?_⟩
  dsimp only
  rw [Run.tell_cross, barred]

/-! ## Stages that lack an action -/

theorem Lacks.find?_eq_none
    {kind : ActionKind}
    (lacks : stage.Lacks registry kind) :
    registry.find? kind = none := by
  cases lacks with
  | own unregistered => exact unregistered
  | lookup following answered other isCondition unregistered =>
    exact unregistered

/-- The turn of a stage that lacks an action is the last, and nothing is called
in it but the step itself, if it is for a look-up that the action is
missing. -/
theorem told_of_lacks
    {kind : ActionKind}
    (lacks : stage.Lacks registry kind) :
    ∃ reply?,
      stage.told registry = [{ step := stage.current, reply? }] ∧
        (stage.current.kind ≠ kind → ∃ result, reply? = some (.ok result)) ∧
        ∀ position,
          stage.record registry position =
            Run.stop position [] (stage.current :: stage.rest)
              (.unregistered kind) := by
  cases lacks with
  | own unregistered =>
    have silent :
        (registry.ask stage.current.kind stage.current.arguments).run
          stage.world = (none, stage.world) := by
      simp [Registry.ask, StateT.run, unregistered]
    unfold record told
    rw [Run.course_run_cons, Step.deliver_nil, Run.turn_run, silent]
    exact ⟨none, rfl, fun other => (other rfl).elim, fun position => rfl⟩
  | @lookup next rest result after following answered other isCondition
      unregistered =>
    have barred :
        (Run.cross registry stage.current result next.kind after).handed =
          .error (.unregistered .cTime) :=
      (Run.handed_cross_eq_unregistered_iff _ _ _ _ _ _).mpr
        ⟨other, isCondition, unregistered, rfl⟩
    rcases told_barred following answered barred with ⟨told, record⟩
    have silent :
        (Run.cross registry stage.current result next.kind after).lookup? =
          none := by
      rw [← Option.not_isSome_iff_eq_none, Run.isSome_lookup?_cross]
      simp [unregistered]
    rw [silent] at told
    exact ⟨some (.ok result), told, fun _ => ⟨result, rfl⟩, record⟩

/-! ## Stages that a run comes to -/

/-- A run that comes to a stage comes to all that the stage leads to. -/
theorem Reaches.trans
    {count further : Nat}
    {reached last : Stage World}
    (reaches : stage.Reaches registry count reached)
    (behind : reached.Reaches registry further last) :
    stage.Reaches registry (count + further) last := by
  induction reaches with
  | here =>
    rw [Nat.zero_add]
    exact behind
  | step following answered handed _ induction =>
    rw [Nat.add_right_comm]
    exact .step following answered handed (induction behind)

/-- A stage stands for a step of the list. -/
theorem Reaches.drop_eq
    {count : Nat}
    {reached : Stage World}
    (reaches : stage.Reaches registry count reached) :
    ∃ own handed,
      (stage.current :: stage.rest).drop count = own :: reached.rest ∧
        reached.current = own.deliver handed := by
  induction reaches with
  | @here stage =>
    exact ⟨stage.current, [], rfl, (Step.deliver_nil _).symm⟩
  | @step start next rest _ _ forwarded count _ following _ _ behind
      induction =>
    rcases induction with ⟨own, handed, dropped, delivered⟩
    rw [List.drop_succ_cons, following]
    cases count with
    | zero =>
      cases behind
      exact ⟨next, forwarded, rfl, rfl⟩
    | succ count => exact ⟨own, handed, dropped, delivered⟩

/-- A run comes to every stage but the first from a stage in front of it. -/
theorem Reaches.exists_previous
    {count : Nat}
    {reached : Stage World}
    (reaches : stage.Reaches registry (count + 1) reached) :
    ∃ previous next result after forwarded,
      stage.Reaches registry count previous ∧
        previous.rest = next :: reached.rest ∧
        (registry.ask previous.current.kind previous.current.arguments).run
          previous.world = (some (.ok result), after) ∧
        let crossing :=
          Run.cross registry previous.current result next.kind after
        crossing.handed = .ok forwarded ∧
          reached = ahead next reached.rest forwarded crossing.world := by
  induction count generalizing stage with
  | zero =>
    cases reaches with
    | step following answered handed behind =>
      cases behind
      exact ⟨stage, _, _, _, _, .here, following, answered, handed, rfl⟩
  | succ count induction =>
    cases reaches with
    | step following answered handed behind =>
      rcases induction behind with
        ⟨previous, next, result, after, forwarded, comes, last⟩
      exact ⟨previous, next, result, after, forwarded,
        .step following answered handed comes, last⟩

/-- The turns of a run go on from a stage that it comes to, and so does its
record. -/
theorem Reaches.told_eq
    {count : Nat}
    {reached : Stage World}
    (reaches : stage.Reaches registry count reached)
    (position : Nat) :
    ∃ turns,
      turns.length = count ∧
        stage.told registry = turns ++ reached.told registry ∧
        stage.record registry position =
          (reached.record registry (position + count)).behind turns := by
  induction reaches generalizing position with
  | here => exact ⟨[], rfl, rfl, rfl⟩
  | @step _ _ _ _ _ _ count _ following answered handed _ induction =>
    rcases induction (position + 1) with ⟨turns, length, told, record⟩
    rw [told_ahead following answered handed,
      record_ahead following answered handed, told, record]
    refine ⟨_ :: turns, congrArg (· + 1) length, rfl, ?_⟩
    rw [Nat.add_right_comm, Nat.add_assoc, Report.behind_cons]

/-- The turn of a stage that a run comes to stands behind the turns of all
stages in front. -/
theorem Reaches.getElem?_told
    {count : Nat}
    {reached : Stage World}
    (reaches : stage.Reaches registry count reached) :
    (stage.told registry)[count]? = (reached.told registry).head? := by
  rcases reaches.told_eq 0 with ⟨turns, length, told, -⟩
  rw [told, List.getElem?_append_right (by omega), length, Nat.sub_self,
    List.head?_eq_getElem?]

/-- The turns up to a stage that lacks an action, and their record. -/
theorem Reaches.told_of_lacks
    {count : Nat}
    {reached : Stage World}
    {kind : ActionKind}
    (reaches : stage.Reaches registry count reached)
    (lacks : reached.Lacks registry kind)
    (position : Nat) :
    ∃ turns reply? log,
      turns.length = count ∧
        stage.told registry = turns ++ [{ step := reached.current, reply? }] ∧
        (reached.current.kind ≠ kind →
          ∃ result, reply? = some (.ok result)) ∧
        stage.record registry position = {
          steps :=
            turns.map (fun turn => turn.step.succeeded) ++
              reached.current :: reached.rest
          success := count
          ending := .unregistered (position + count) kind
          log } := by
  rcases reaches.told_eq position with ⟨turns, length, told, record⟩
  rcases Stage.told_of_lacks lacks with ⟨reply?, last, answered, stopped⟩
  rw [last] at told
  rw [stopped, Run.stop, Report.behind_eq, length, Nat.zero_add] at record
  exact ⟨turns, reply?, _, length, told, answered, record⟩

/-- The turn of a stage asks the action of its step first. -/
theorem head?_told (registry : Registry (StateM World)) (stage : Stage World) :
    ∃ lookup?,
      (stage.told registry).head? = some {
        step := stage.current
        reply? :=
          ((registry.ask stage.current.kind stage.current.arguments).run
            stage.world).1
        lookup? } := by
  rcases stage with ⟨current, rest, world⟩
  unfold told
  cases rest with
  | nil =>
    rw [Run.course_run_singleton, Step.deliver_nil]
    exact ⟨none, rfl⟩
  | cons next rest =>
    rw [Run.course_run_cross, Step.deliver_nil]
    dsimp only
    generalize (registry.ask current.kind current.arguments).run world = own
    rcases own with ⟨_ | (error | result), after⟩
    · exact ⟨none, rfl⟩
    · exact ⟨none, rfl⟩
    · dsimp only
      split
      · exact ⟨_, rfl⟩
      · exact ⟨_, rfl⟩

theorem Reaches.lt_length_told
    {count : Nat}
    {reached : Stage World}
    (reaches : stage.Reaches registry count reached) :
    count < (stage.told registry).length := by
  rcases head?_told registry reached with ⟨lookup?, first⟩
  have here := reaches.getElem?_told.trans first
  exact (List.getElem?_eq_some_iff.mp here).1

/-- A stage belongs to every turn of a run. -/
theorem exists_reaches_of_getElem?_told
    {position : Nat}
    {turn : Turn}
    (here : (stage.told registry)[position]? = some turn) :
    ∃ reached,
      stage.Reaches registry position reached ∧
        (reached.told registry).head? = some turn := by
  rcases stage with ⟨current, rest, world⟩
  induction position generalizing current rest world with
  | zero => exact ⟨_, .here, by rw [List.head?_eq_getElem?, here]⟩
  | succ position induction =>
    have whole := here
    unfold told at here
    cases rest with
    | nil =>
      rw [Run.course_run_singleton] at here
      cases here
    | cons next rest =>
      rw [Run.course_run_cross, Step.deliver_nil] at here
      cases own : (registry.ask current.kind current.arguments).run world with
      | mk reply? after =>
        rw [own] at here
        rcases reply? with _ | (error | result)
        · cases here
        · cases here
        · dsimp only at here
          cases crossed :
              (Run.cross registry current result next.kind after).handed with
          | error obstacle =>
            rw [crossed] at here
            cases here
          | ok forwarded =>
            rw [told_ahead rfl own crossed] at whole
            rcases induction _ _ _ whole with ⟨reached, reaches, head⟩
            exact ⟨reached, .step rfl own crossed reaches, head⟩

/-- A step that has given a result in a turn stands at the stage of the turn,
and in front of the step behind it. -/
theorem exists_reaches_of_answered
    {position : Nat}
    {turn : Turn}
    {result : String}
    {next : Step}
    (here : (stage.told registry)[position]? = some turn)
    (replied : turn.reply? = some (.ok result))
    (behind : (stage.current :: stage.rest)[position + 1]? = some next) :
    ∃ reached rest after,
      stage.Reaches registry position reached ∧
        reached.current = turn.step ∧
        reached.rest = next :: rest ∧
        (registry.ask reached.current.kind reached.current.arguments).run
          reached.world = (some (.ok result), after) := by
  rcases exists_reaches_of_getElem?_told here with ⟨reached, reaches, head⟩
  rcases head?_told registry reached with ⟨lookup?, asked⟩
  rw [asked, Option.some_inj] at head
  rw [← head] at replied ⊢
  have following :
      (stage.current :: stage.rest).drop (position + 1) = reached.rest := by
    rcases reaches.drop_eq with ⟨own, handed, dropped, -⟩
    rw [← List.drop_drop, dropped]
    rfl
  rw [← List.head?_drop, following, List.head?_eq_some_iff] at behind
  rcases behind with ⟨rest, following⟩
  exact ⟨reached, rest, _, reaches, rfl, following, Prod.ext replied rfl⟩

theorem reaches_of_ending_record
    {position place : Nat}
    {kind : ActionKind}
    (ending :
      (stage.record registry position).ending = .unregistered place kind) :
    ∃ count reached,
      place = position + count ∧
        stage.Reaches registry count reached ∧
          reached.Lacks registry kind := by
  rcases stage with ⟨current, rest, world⟩
  have silent :=
    registry.ask_eq_none_iff current.kind current.arguments world
  induction rest generalizing current world position with
  | nil =>
    unfold record told at ending
    rw [Run.course_run_singleton, Step.deliver_nil] at ending
    generalize
      (registry.ask current.kind current.arguments).run world = own at *
    rcases own with ⟨_ | (error | result), after⟩
    · cases ending
      exact ⟨0, _, rfl, .here, .own (silent.mp rfl)⟩
    · cases error <;> cases ending
    · cases ending
  | cons next rest induction =>
    have recorded := ending
    unfold record told at ending
    rw [Run.course_run_cross, Step.deliver_nil] at ending
    cases own : (registry.ask current.kind current.arguments).run world with
    | mk reply? after =>
      rw [own] at ending silent
      rcases reply? with _ | (error | result)
      · cases ending
        exact ⟨0, _, rfl, .here, .own (silent.mp rfl)⟩
      · cases error <;> cases ending
      · dsimp only at ending
        cases crossed :
            (Run.cross registry current result next.kind after).handed with
        | error obstacle =>
          rw [crossed] at ending
          dsimp only at ending
          rw [Run.tell_cross, crossed] at ending
          cases obstacle with
          | failure error => cases ending
          | unregistered missing =>
            cases ending
            rcases
                (Run.handed_cross_eq_unregistered_iff _ _ _ _ _ _).mp crossed
                  with
              ⟨other, isCondition, unregistered, rfl⟩
            exact ⟨0, _, rfl, .here,
              .lookup rfl own other isCondition unregistered⟩
        | ok forwarded =>
          -- The run goes on from the next stage.
          rw [record_ahead rfl own crossed] at recorded
          rcases
              induction _ _ recorded (registry.ask_eq_none_iff _ _ _) with
            ⟨count, reached, moved, reaches, lacks⟩
          exact ⟨count + 1, reached, by omega,
            .step rfl own crossed reaches, lacks⟩

end

/-- A record ends at a kind without an action exactly if the run comes to a
stage that lacks it. -/
theorem ending_record_eq_unregistered_iff
    (registry : Registry (StateM World))
    (stage : Stage World)
    (position count : Nat)
    (kind : ActionKind) :
    (stage.record registry position).ending =
        .unregistered (position + count) kind ↔
      ∃ reached,
        stage.Reaches registry count reached ∧
          reached.Lacks registry kind := by
  constructor
  · intro ending
    rcases reaches_of_ending_record ending with
      ⟨counted, reached, place, reaches, lacks⟩
    cases Nat.add_left_cancel place
    exact ⟨reached, reaches, lacks⟩
  · rintro ⟨reached, reaches, lacks⟩
    rcases reaches.told_of_lacks lacks position with
      ⟨turns, reply?, log, -, -, -, record⟩
    rw [record]

end Stage

end Scenario
