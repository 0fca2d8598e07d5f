import Scenario.Run

/-!
# The course of a run

A run interleaves two things: it calls actions in a world that the calls may
change, and it keeps the record of what came of them.  This module takes them
apart.  The *course* of a run is the list of its turns, one for every step
whose turn came; a turn holds what the calls made in it gave.  The record that
the run leaves is then a function of the steps and of the turns alone.

Actions are arbitrary functions on an arbitrary world.  The main statement,
`perform_run`, says that performing steps is going through their course and
telling what happened.  A course is also *orderly*: each turn is what the rules
for neighbouring steps make of the turn before it.  What holds of the record of
every run follows from that by induction over the turns.
-/

namespace Scenario

variable {World : Type}

/-! ## Programs in a world -/

theorem run_bind_world {α β : Type}
    (first : StateM World α)
    (second : α → StateM World β)
    (world : World) :
    (first >>= second).run world =
      (second (first.run world).1).run (first.run world).2 :=
  rfl

theorem run_pure_world {α : Type} (value : α) (world : World) :
    (pure value : StateM World α).run world = (value, world) :=
  rfl

/-! ## Turns -/

/-- A call of an action, and what it gave. -/
structure Call where
  kind : ActionKind
  arguments : List String
  reply : ActionResult

/-- Ask the action of a kind, if there is one. -/
def Registry.ask
    (registry : Registry (StateM World))
    (kind : ActionKind)
    (arguments : List String) :
    StateM World (Option ActionResult) :=
  fun world =>
    match registry.find? kind with
    | none => (none, world)
    | some action =>
      (some (action arguments world).1.value, (action arguments world).2)

theorem Registry.ask_run_of_find?
    {registry : Registry (StateM World)}
    {kind : ActionKind}
    {action : Action (StateM World)}
    (found : registry.find? kind = some action)
    {arguments : List String}
    {world after : World}
    {reply : Logged ActionResult}
    (run : (action arguments).run world = (reply, after)) :
    (registry.ask kind arguments).run world = (some reply.value, after) := by
  rw [StateT.run] at run
  simp only [ask, StateT.run, found, run]

theorem Registry.ask_eq_none_iff
    (registry : Registry (StateM World))
    (kind : ActionKind)
    (arguments : List String)
    (world : World) :
    ((registry.ask kind arguments).run world).1 = none ↔
      registry.find? kind = none := by
  cases found : registry.find? kind with
  | none => simp [ask, StateT.run, found]
  | some action => simp [ask, StateT.run, found]

/-- The turn of a step in a run. -/
structure Turn where
  /-- The step, with the arguments that it is performed on. -/
  step : Step
  /-- What the action of the step gave, if there is one. -/
  reply? : Option ActionResult
  /-- What the look-up of a change time gave, if one was made. -/
  lookup? : Option ActionResult := none

/-- How the turn of a step ends. -/
inductive Verdict where
  /-- The step has succeeded, and what is behind it is handed arguments. -/
  | passed (forwarded : List String)
  /-- The step is a condition that does not hold. -/
  | conditionFalse
  | stopped (obstacle : Obstacle)

namespace Turn

/-- The call of the action of the step, if it was made. -/
def ownCall? (turn : Turn) : Option Call :=
  turn.reply?.map (Call.mk turn.step.kind turn.step.arguments)

/-- The call that looked up a change time, if it was made. -/
def lookupCall? (turn : Turn) : Option Call :=
  match turn.reply? with
  | some (.ok result) =>
    turn.lookup?.map (Call.mk .cTime (forwardedBase result))
  | _ => none

/-- The calls made in a turn, in order. -/
def calls (turn : Turn) : List Call :=
  turn.ownCall?.toList ++ turn.lookupCall?.toList

/-- What a turn makes of a result before a step of the given kind. -/
def handover (turn : Turn) (result : String) (next : ActionKind) : Verdict :=
  match Forwarding.forPair turn.step.kind next with
  | .result => .passed (forwardedBase result)
  | .configuredArguments => .passed turn.step.arguments
  | .resultThenConfigured =>
    .passed (forwardedBase result ++ turn.step.arguments)
  | .implicitCTime =>
    match turn.lookup? with
    | none => .stopped (.unregistered .cTime)
    | some (.error error) => .stopped (.failure error)
    | some (.ok stamp) => .passed (stamp :: forwardedBase result)

/-- How a turn ends before a step of the given kind, or as the last.  What the
last step forwards reaches nobody. -/
def verdict (turn : Turn) (next? : Option ActionKind) : Verdict :=
  match turn.reply? with
  | none => .stopped (.unregistered turn.step.kind)
  | some (.error .falseCondition) => .conditionFalse
  | some (.error error) => .stopped (.failure error)
  | some (.ok result) =>
    match next? with
    | none => .passed []
    | some next => turn.handover result next

/-- The turn of a step makes the calls that the rules ask for. -/
structure Regular
    (registry : Registry (StateM World))
    (current : Step)
    (next? : Option ActionKind)
    (turn : Turn) : Prop where
  step_eq : turn.step = current
  reply?_eq_none_iff :
    turn.reply? = none ↔ registry.find? current.kind = none
  isSome_lookup?_iff :
    turn.lookup?.isSome ↔
      (∃ result, turn.reply? = some (.ok result)) ∧
        current.kind ≠ .cTime ∧
        next? = some .condition ∧
        (registry.find? .cTime).isSome

end Turn

namespace Run

/-! ## Courses -/

/-- The turn of a step before a step of the given kind, or as the last. -/
def turn
    (registry : Registry (StateM World))
    (current : Step)
    (next? : Option ActionKind) :
    StateM World Turn := do
  let reply? ← registry.ask current.kind current.arguments
  match reply?, next? with
  | some (.ok result), some next =>
    if Forwarding.forPair current.kind next = .implicitCTime then
      let lookup? ← registry.ask .cTime (forwardedBase result)
      return { step := current, reply?, lookup? }
    else
      return { step := current, reply? }
  | _, _ => return { step := current, reply? }

/-- The turns of a run over a list of steps, the first of which is yet to be
handed arguments. -/
def course
    (registry : Registry (StateM World))
    (forwarded : List String) :
    List Step → StateM World (List Turn)
  | [] => return []
  | current :: rest => do
    let next? := rest.head?.map Step.kind
    let turn ← turn registry (current.deliver forwarded) next?
    match turn.verdict next? with
    | .passed forwarded =>
      let turns ← course registry forwarded rest
      return turn :: turns
    | _ => return [turn]

/-- A turn asks the action of its step, and looks a change time up if the
next step needs it. -/
theorem turn_run
    (registry : Registry (StateM World))
    (current : Step)
    (next? : Option ActionKind)
    (world : World) :
    let own := (registry.ask current.kind current.arguments).run world
    (turn registry current next?).run world =
      match own.1, next? with
      | some (.ok result), some next =>
        if Forwarding.forPair current.kind next = .implicitCTime then
          let lookup :=
            (registry.ask .cTime (forwardedBase result)).run own.2
          ({ step := current, reply? := own.1, lookup? := lookup.1 }, lookup.2)
        else
          ({ step := current, reply? := own.1 }, own.2)
      | _, _ => ({ step := current, reply? := own.1 }, own.2) := by
  simp only [turn, run_bind_world]
  generalize (registry.ask current.kind current.arguments).run world = own
  rcases own with ⟨_ | (error | result), after⟩
  · rfl
  · rfl
  · cases next? with
    | none => rfl
    | some next =>
      dsimp only
      split <;> rfl

/-- The turn of a step is regular, whatever its actions do. -/
theorem turn_regular
    (registry : Registry (StateM World))
    (current : Step)
    (next? : Option ActionKind)
    (world : World) :
    ((turn registry current next?).run world).1.Regular
      registry current next? := by
  have silent :=
    registry.ask_eq_none_iff current.kind current.arguments world
  rw [turn_run]
  revert silent
  generalize (registry.ask current.kind current.arguments).run world = own
  rcases own with ⟨_ | (error | result), after⟩
  · intro silent
    exact ⟨rfl, silent, by simp⟩
  · intro silent
    exact ⟨rfl, silent, by simp⟩
  · intro silent
    cases next? with
    | none => exact ⟨rfl, silent, by simp⟩
    | some next =>
      have lookupSilent :=
        registry.ask_eq_none_iff .cTime (forwardedBase result) after
      dsimp only
      split
      · rename_i due
        rw [Forwarding.forPair_eq_implicitCTime_iff] at due
        refine ⟨rfl, silent, ?_⟩
        simp [Option.isSome_iff_ne_none, lookupSilent, due]
      · rename_i due
        rw [Forwarding.forPair_eq_implicitCTime_iff] at due
        refine ⟨rfl, silent, ?_⟩
        simp only [Option.isSome_none, Bool.false_eq_true, false_iff]
        rintro ⟨-, different, condition, -⟩
        exact due ⟨different, Option.some.inj condition⟩

@[simp]
theorem turn_step
    (registry : Registry (StateM World))
    (current : Step)
    (next? : Option ActionKind)
    (world : World) :
    ((turn registry current next?).run world).1.step = current :=
  (turn_regular registry current next? world).step_eq

@[simp]
theorem course_run_nil
    (registry : Registry (StateM World))
    (forwarded : List String)
    (world : World) :
    (course registry forwarded []).run world = ([], world) :=
  rfl

theorem course_run_cons
    (registry : Registry (StateM World))
    (forwarded : List String)
    (current : Step)
    (rest : List Step)
    (world : World) :
    let next? := rest.head?.map Step.kind
    let taken :=
      (turn registry (current.deliver forwarded) next?).run world
    (course registry forwarded (current :: rest)).run world =
      match taken.1.verdict next? with
      | .passed forwarded =>
        let told := (course registry forwarded rest).run taken.2
        (taken.1 :: told.1, told.2)
      | _ => ([taken.1], taken.2) := by
  rw [course]
  simp only [run_bind_world]
  split <;> rfl

/-! ## The record of a course -/

/-- The record of the turns of the steps from a position on. -/
def tell (position : Nat) : List Turn → List Step → Report
  | turn :: turns, _ :: rest =>
    match turn.verdict (rest.head?.map Step.kind) with
    | .passed _ => (tell (position + 1) turns rest).after turn.step []
    | .conditionFalse => stopFalse position [] turn.step rest
    | .stopped obstacle => stop position [] (turn.step :: rest) obstacle
  | _, _ => { steps := [], ending := .completed }

end Run

/-- The report without its log. -/
def Report.unlogged (report : Report) : Report :=
  { report with log := [] }

@[simp]
theorem Report.unlogged_after
    (report : Report)
    (step : Step)
    (log : List LogEvent) :
    (report.after step log).unlogged = report.unlogged.after step [] :=
  rfl

@[simp]
theorem Report.ending_unlogged (report : Report) :
    report.unlogged.ending = report.ending :=
  rfl

@[simp]
theorem Report.document_unlogged (report : Report) :
    report.unlogged.document = report.document :=
  rfl

namespace Run

@[simp]
theorem unlogged_stopFalse
    (position : Nat)
    (log : List LogEvent)
    (condition : Step)
    (rest : List Step) :
    (stopFalse position log condition rest).unlogged =
      (stopFalse position [] condition rest).unlogged :=
  rfl

@[simp]
theorem unlogged_stop
    (position : Nat)
    (log : List LogEvent)
    (steps : List Step)
    (obstacle : Obstacle) :
    (stop position log steps obstacle).unlogged =
      (stop position [] steps obstacle).unlogged := by
  cases obstacle <;> rfl

/-- What a run makes of the answer of an action. -/
def heard (kind : ActionKind) : Option ActionResult → Except Obstacle String
  | none => .error (.unregistered kind)
  | some reply => reply.mapError .failure

@[simp]
theorem heard_ok (kind : ActionKind) (result : String) :
    heard kind (some (.ok result)) = .ok result :=
  rfl

theorem call_run
    (registry : Registry (StateM World))
    (kind : ActionKind)
    (announcement : LogEvent)
    (arguments : List String)
    (world : World) :
    ∃ log,
      (call registry kind announcement arguments).run world =
        ({ value := heard kind ((registry.ask kind arguments).run world).1
           log },
          ((registry.ask kind arguments).run world).2) := by
  unfold call Registry.ask
  cases found : registry.find? kind with
  | none => exact ⟨_, rfl⟩
  | some action => exact ⟨_, rfl⟩

theorem perform_run_nil
    (registry : Registry (StateM World))
    (position : Nat)
    (current : Step)
    (world : World) :
    let taken := (turn registry current none).run world
    ∃ log,
      (perform registry position current []).run world =
        match taken.1.verdict none with
        | .passed _ =>
          (Report.after { steps := [], ending := .completed } current log,
            taken.2)
        | .conditionFalse => (stopFalse position log current [], taken.2)
        | .stopped obstacle =>
          (stop position log [current] obstacle, taken.2) := by
  rcases
      call_run registry current.kind (callEvent position current.kind)
        current.arguments world with
    ⟨log, called⟩
  rw [perform]
  simp only [run_bind_world, turn_run, called]
  generalize (registry.ask current.kind current.arguments).run world = own
  rcases own with ⟨_ | (error | result), after⟩
  · exact ⟨_, rfl⟩
  · cases error <;> exact ⟨_, rfl⟩
  · refine ⟨log, ?_⟩
    simp only [heard_ok, Turn.verdict, Report.after, run_pure_world,
      List.append_nil, Nat.zero_add]

/-- What becomes of a run with the turn of a step that is not the last. -/
theorem perform_run_cons
    (registry : Registry (StateM World))
    (position : Nat)
    (current next : Step)
    (rest : List Step)
    (world : World) :
    let taken := (turn registry current (some next.kind)).run world
    ∃ log,
      (perform registry position current (next :: rest)).run world =
        match taken.1.verdict (some next.kind) with
        | .passed forwarded =>
          let performed :=
            (perform registry (position + 1) (next.deliver forwarded)
              rest).run taken.2
          (performed.1.after current log, performed.2)
        | .conditionFalse =>
          (stopFalse position log current (next :: rest), taken.2)
        | .stopped obstacle =>
          (stop position log (current :: next :: rest) obstacle, taken.2) := by
  rcases
      call_run registry current.kind (callEvent position current.kind)
        current.arguments world with
    ⟨log, called⟩
  rw [perform]
  simp only [run_bind_world, turn_run, called]
  generalize (registry.ask current.kind current.arguments).run world = own
  rcases own with ⟨_ | (error | result), after⟩
  · exact ⟨_, rfl⟩
  · cases error <;> exact ⟨_, rfl⟩
  · cases rule : Forwarding.forPair current.kind next.kind with
    | result =>
      simp only [reduceCtorEq, if_false, Turn.verdict, Turn.handover, rule]
      exact ⟨_, rfl⟩
    | configuredArguments =>
      simp only [reduceCtorEq, if_false, Turn.verdict, Turn.handover, rule]
      exact ⟨_, rfl⟩
    | resultThenConfigured =>
      simp only [reduceCtorEq, if_false, Turn.verdict, Turn.handover, rule]
      exact ⟨_, rfl⟩
    | implicitCTime =>
      rcases
          call_run registry .cTime (lookupEvent (forwardedBase result))
            (forwardedBase result) after with
        ⟨lookupLog, lookedUp⟩
      simp only [if_true, Turn.verdict, Turn.handover, rule, heard_ok,
        Forwarding.forward, run_bind_world, lookedUp]
      generalize
        (registry.ask .cTime (forwardedBase result)).run after = made
      rcases made with ⟨_ | (error | stamp), later⟩
      · exact ⟨_, rfl⟩
      · exact ⟨_, rfl⟩
      · exact ⟨_, rfl⟩

/-- To perform steps is to go through their course and to tell it. -/
theorem perform_run
    (registry : Registry (StateM World))
    (position : Nat)
    (forwarded : List String)
    (current : Step)
    (rest : List Step)
    (world : World) :
    let performed :=
      (perform registry position (current.deliver forwarded) rest).run world
    let told := (course registry forwarded (current :: rest)).run world
    performed.1.unlogged =
        (tell position told.1 (current :: rest)).unlogged ∧
      performed.2 = told.2 := by
  induction rest generalizing position forwarded current world with
  | nil =>
    rcases
        perform_run_nil registry position (current.deliver forwarded) world
          with
      ⟨log, performed⟩
    have step := turn_step registry (current.deliver forwarded) none world
    rw [course_run_cons, performed]
    simp only [List.head?_nil, Option.map_none]
    revert step
    generalize
      (turn registry (current.deliver forwarded) none).run world = taken
    intro step
    cases verdict : taken.1.verdict none with
    | passed handed => simp [tell, verdict, step]
    | conditionFalse => simp [tell, verdict, step]
    | stopped obstacle => simp [tell, verdict, step]
  | cons next rest induction =>
    rcases
        perform_run_cons registry position (current.deliver forwarded) next
          rest world with
      ⟨log, performed⟩
    have step :=
      turn_step registry (current.deliver forwarded) (some next.kind) world
    rw [course_run_cons, performed]
    simp only [List.head?_cons, Option.map_some]
    revert step
    generalize
      (turn registry (current.deliver forwarded)
        (some next.kind)).run world = taken
    intro step
    cases verdict : taken.1.verdict (some next.kind) with
    | passed forwarded =>
      -- The rest is performed in the world that this turn has left.
      rcases induction (position + 1) forwarded next taken.2 with
        ⟨report, after⟩
      refine ⟨?_, after⟩
      simp [tell, verdict, step, report]
    | conditionFalse => simp [tell, verdict, step]
    | stopped obstacle => simp [tell, verdict, step]

theorem steps_run
    (registry : Registry (StateM World))
    (list : List Step)
    (world : World) :
    let performed := (steps registry list).run world
    let told := (course registry [] list).run world
    performed.1.unlogged = (tell 0 told.1 list).unlogged ∧
      performed.2 = told.2 := by
  cases list with
  | nil => exact ⟨rfl, rfl⟩
  | cons first rest =>
    have performed := perform_run registry 0 [] first rest world
    rwa [Step.deliver_nil] at performed

end Run

end Scenario
