import Scenario.Proofs.Conduct
import Scenario.Proofs.Insertion

/-!
# Runs compose

A run over two lists put together is the run over the first of them, and if
that completes, a crossing to the second list and a run over that.  So nothing
that a run does depends on steps it has not come to, except on the kind of the
next one, and nothing that it does later depends on the steps behind it, except
on what they hand on.  `conduct_append` states this for the whole conduct of a
run: calls, world, result, state, steps and summary.
-/

namespace Scenario

variable {World : Type}

/-- Delivery changes the arguments of a step and nothing else. -/
theorem Step.with_arguments_deliver (step : Step) (forwarded : List String) :
    { step with arguments := (step.deliver forwarded).arguments } =
      step.deliver forwarded := by
  unfold Step.deliver
  split <;> rfl

/-- The record of a run that has stopped, with further steps left behind. -/
def Report.leaving (report : Report) (back : List Step) : Report :=
  match report.ending with
  | .unregistered .. => { report with steps := report.steps ++ back }
  | _ =>
    { report with
      steps := report.steps ++ back.map Step.failed
      failed := report.failed + back.length }

/-- The record of a run over one step that succeeds. -/
def Report.ofSucceeded (step : Step) : Report where
  steps := [step.succeeded]
  success := 1
  ending := .completed

theorem Report.leaving_after
    (report : Report)
    (step : Step)
    (log : List LogEvent)
    (back : List Step) :
    (report.after step log).leaving back =
      (report.leaving back).after step log := by
  rcases report with ⟨steps, success, failed, ending, before⟩
  cases ending <;> rfl

namespace Run

theorem stopFalse_leaving
    (position : Nat)
    (log : List LogEvent)
    (condition : Step)
    (rest back : List Step) :
    (stopFalse position log condition rest).leaving back =
      stopFalse position log condition (rest ++ back) := by
  simp [stopFalse, Report.leaving]

theorem stop_leaving
    (position : Nat)
    (log : List LogEvent)
    (steps back : List Step)
    (obstacle : Obstacle) :
    (stop position log steps obstacle).leaving back =
      stop position log (steps ++ back) obstacle := by
  cases obstacle <;> simp [stop, Report.leaving]

/-- What stops at the last step stops there as well if others follow. -/
theorem turn_run_of_stopped
    (registry : Registry (StateM World))
    (current : Step)
    (next? : Option ActionKind)
    (world : World)
    (stopped :
      ∀ handed,
        ((turn registry current none).run world).1.verdict none ≠
          .passed handed) :
    let taken := (turn registry current none).run world
    (turn registry current next?).run world = taken ∧
      taken.1.verdict next? = taken.1.verdict none := by
  rw [turn_run] at stopped
  rw [turn_run, turn_run]
  generalize
    (registry.ask current.kind current.arguments).run world = own at *
  rcases own with ⟨_ | (error | result), after⟩
  · exact ⟨rfl, rfl⟩
  · cases error <;> exact ⟨rfl, rfl⟩
  · exact (stopped [] rfl).elim

/-- A course that stops is not changed by steps put behind. -/
theorem course_append_of_stopped
    (registry : Registry (StateM World))
    (forwarded : List String)
    (front back : List Step)
    (world : World)
    (position : Nat)
    (stopped :
      (tell position ((course registry forwarded front).run world).1
        front).ending ≠ .completed) :
    let alone := (course registry forwarded front).run world
    (course registry forwarded (front ++ back)).run world = alone ∧
      tell position alone.1 (front ++ back) =
        (tell position alone.1 front).leaving back := by
  induction front generalizing forwarded world position with
  | nil => exact (stopped rfl).elim
  | cons current front induction =>
    -- Only the last step in front gets a successor that it did not have.
    cases front with
    | nil =>
      have last :=
        turn_run_of_stopped registry (current.deliver forwarded)
          (back.head?.map Step.kind) world
      rw [course_run_cons] at stopped
      rw [List.cons_append, List.nil_append, course_run_cons, course_run_cons]
      dsimp only [List.head?_nil, Option.map_none] at *
      generalize
        (turn registry (current.deliver forwarded) none).run world =
          taken at *
      cases verdict : taken.1.verdict none with
      | passed handed =>
        rw [verdict] at stopped
        simp only [tell, List.head?_nil, Option.map_none, verdict] at stopped
        exact (stopped rfl).elim
      | conditionFalse =>
        rcases last (by simp [verdict]) with ⟨same, sameVerdict⟩
        simp [same, sameVerdict, verdict, tell, stopFalse_leaving]
      | stopped obstacle =>
        rcases last (by simp [verdict]) with ⟨same, sameVerdict⟩
        simp [same, sameVerdict, verdict, tell, stop_leaving]
    | cons next front =>
      rw [course_run_cons] at stopped
      rw [List.cons_append, course_run_cons, course_run_cons]
      dsimp only [List.head?_cons, Option.map_some, List.cons_append] at *
      generalize
        (turn registry (current.deliver forwarded)
          (some next.kind)).run world = taken at *
      cases verdict : taken.1.verdict (some next.kind) with
      | passed handed =>
        simp only [verdict, tell, List.head?_cons, Option.map_some,
          Report.after] at stopped
        rcases induction handed taken.2 (position + 1) stopped with
          ⟨course, told⟩
        simp [course, tell, verdict, told, Report.leaving_after]
      | conditionFalse => simp [tell, verdict, stopFalse_leaving]
      | stopped obstacle => simp [tell, verdict, stop_leaving]

theorem answered_of_tell_singleton
    {position : Nat}
    {turn : Turn}
    {step : Step}
    (completed : (tell position [turn] [step]).ending = .completed) :
    ∃ result, turn.reply? = some (.ok result) := by
  rcases turn with ⟨called, _ | (error | result), lookup?⟩
  · cases completed
  · cases error <;> cases completed
  · exact ⟨result, rfl⟩

/-- A run that completes has come to its last step, and this gave a
result. -/
theorem answered_of_completed
    {registry : Registry (StateM World)}
    {forwarded : List String}
    {front : List Step}
    {last : Step}
    {world : World}
    (completed :
      (tell 0
        ((course registry forwarded (front ++ [last])).run world).1
        (front ++ [last])).ending = .completed) :
    let gone := (approach registry last.kind forwarded front).run world
    ∃ handed result after,
      gone.1.handed? = some handed ∧
        (registry.ask last.kind (last.deliver handed).arguments).run gone.2 =
          (some (.ok result), after) := by
  intro gone
  have appended := course_run_append registry forwarded front last [] world
  cases reached : gone.1.handed? with
  | none =>
    -- Every step of a completed run has had its turn.
    have orderly := course_orderly registry forwarded (front ++ [last]) world
    have turns := orderly.reached_tell 0
    have few := length_approach_le registry last.kind forwarded front world
    dsimp only [gone] at reached
    simp only [reached] at appended
    rw [completed, Ending.reached, Nat.zero_add, Nat.zero_add, appended,
      List.length_append, List.length_singleton] at turns
    dsimp only at turns
    omega
  | some handed =>
    dsimp only [gone] at reached
    simp only [reached, course_run_singleton] at appended
    rw [appended, (tell_append reached 0 _ []).2, Report.behind_eq] at completed
    rcases answered_of_tell_singleton completed with ⟨result, answered⟩
    rw [Step.deliver_kind] at answered
    exact ⟨handed, result, _, rfl, Prod.ext answered rfl⟩

end Run

/-! ## Conduct of runs over lists put together -/

namespace Conduct

/-- What a run that has stopped makes of further steps: they have failed,
unless it met a kind without an action. -/
def leave (conduct : Conduct World) (back : List Step) : List Step :=
  match conduct.result with
  | .error (.invalidAction ..) => back
  | _ => back.map Step.failed

/-- The run over more steps stops where the run over the steps in front alone
does. -/
structure StopsIn
    (alone whole : Conduct World)
    (back : List Step) : Prop where
  calls_eq : whole.calls = alone.calls
  world_eq : whole.world = alone.world
  result_eq : whole.result = alone.result
  state_eq : whole.state = alone.state
  steps_eq : whole.steps = alone.steps ++ alone.leave back
  summary_eq :
    whole.summary =
      { alone.summary with
        total := alone.summary.total + back.length
        failed :=
          match alone.result with
          | .error (.invalidAction ..) => alone.summary.failed
          | _ => alone.summary.failed + back.length }

/-- The run over more steps stops behind the last step in front, although this
has given a result. -/
structure StopsBehind
    (alone whole : Conduct World)
    (crossing : Crossing World)
    (count : Nat)
    (performed : Step)
    (back : List Step)
    (obstacle : Obstacle) : Prop where
  calls_eq : whole.calls = alone.calls ++ crossing.lookup?.toList
  world_eq : whole.world = crossing.world
  state_eq : whole.state = .stoppedAtFailure
  result_eq :
    whole.result =
      match obstacle with
      | .failure error => .error (.stepFailed count error)
      | .unregistered kind => .error (.invalidAction count kind)
  steps_eq :
    whole.steps =
      alone.steps.dropLast ++
        match obstacle with
        | .failure _ => (performed :: back).map Step.failed
        | .unregistered _ => performed :: back
  summary_eq :
    whole.summary =
      match obstacle with
      | .failure error =>
        { total := count + back.length
          success := count - 1
          failed := back.length + 1
          failedStep? := some count
          error? := some error.message
          errorKind? := some error.kind }
      | .unregistered _ =>
        { total := count + back.length, success := count - 1 }

/-- The run over more steps goes on behind the steps in front as a run of its
own does. -/
structure GoesOn
    (alone fresh whole : Conduct World)
    (crossing : Crossing World)
    (count : Nat) : Prop where
  calls_eq :
    whole.calls = alone.calls ++ crossing.lookup?.toList ++ fresh.calls
  world_eq : whole.world = fresh.world
  state_eq : whole.state = fresh.state
  result_eq :
    whole.result =
      match fresh.result with
      | .ok outcome => .ok (outcome.later count)
      | .error error => .error (error.later count)
  steps_eq : whole.steps = alone.steps ++ fresh.steps
  summary_eq :
    whole.summary =
      { fresh.summary with
        total := fresh.summary.total + count
        success := fresh.summary.success + count
        failedStep? := fresh.summary.failedStep?.map (· + count) }

theorem stopsIn_leaving
    (calls : List Call)
    (world : World)
    (report : Report)
    (back : List Step) :
    (ofReport calls world report).StopsIn
      (ofReport calls world (report.leaving back)) back := by
  rcases report with ⟨steps, success, failed, ending, log⟩
  constructor
  · rfl
  · rfl
  · cases ending <;> rfl
  · cases ending <;> rfl
  · cases ending <;> rfl
  · cases ending <;>
      simp [ofReport, summary, Report.leaving, Report.document, Report.summary,
        Ending.result]

section

variable
    (calls : List Call)
    (world : World)
    (turns : List Turn)
    (performed : Step)
    (crossing : Crossing World)

theorem stopsBehind_behind
    (back : List Step)
    (obstacle : Obstacle) :
    (ofReport calls world
        ((Report.ofSucceeded performed).behind turns)).StopsBehind
      (ofReport (calls ++ crossing.lookup?.toList) crossing.world
        ((Run.stop turns.length [] (performed :: back) obstacle).behind turns))
      crossing (turns.length + 1) performed back obstacle := by
  rw [Report.behind_eq, Report.behind_eq]
  cases obstacle with
  | failure error =>
    exact {
      calls_eq := rfl
      world_eq := rfl
      state_eq := rfl
      result_eq := rfl
      steps_eq := by simp [Run.stop, Report.ofSucceeded]
      summary_eq := by
        simp [Run.stop, Report.summary, Ending.failedStep?, Ending.error?]
        omega }
  | unregistered kind =>
    exact {
      calls_eq := rfl
      world_eq := rfl
      state_eq := rfl
      result_eq := rfl
      steps_eq := by simp [Run.stop, Report.ofSucceeded]
      summary_eq := by
        simp [Run.stop, Report.summary, Ending.failedStep?, Ending.error?]
        omega }

theorem goesOn_behind
    (laterCalls : List Call)
    (after : World)
    (report : Report) :
    (ofReport calls world
        ((Report.ofSucceeded performed).behind turns)).GoesOn
      (ofReport laterCalls after report)
      (ofReport (calls ++ crossing.lookup?.toList ++ laterCalls) after
        (((report.later (turns.length + 1)).after performed []).behind turns))
      crossing (turns.length + 1) := by
  rw [Report.behind_eq, Report.behind_eq]
  exact {
    calls_eq := rfl
    world_eq := rfl
    state_eq := Ending.state_later _ _
    result_eq := Ending.result_later _ _
    steps_eq := by simp [Report.ofSucceeded, Report.after, Report.later]
    summary_eq := by
      simp [Report.after, Report.later, Report.summary]
      omega }

end

end Conduct

/-- A run is over in the state for completed runs exactly if it completed. -/
theorem Ending.state_eq_completed_iff (ending : Ending) :
    ending.state = .completed ↔ ending = .completed := by
  cases ending <;> simp [state]

namespace Engine

section

variable
    {registry : Registry (StateM World)}
    {front : List Step}
    {last : Step}
    {world after : World}
    {handed : List String}
    {result : String}

/-- The conduct of a run that completes, by the approach to its last step. -/
theorem conduct_eq_of_answered
    (reached :
      ((Run.approach registry last.kind [] front).run world).1.handed? =
        some handed)
    (answered :
      (registry.ask last.kind (last.deliver handed).arguments).run
          ((Run.approach registry last.kind [] front).run world).2 =
        (some (.ok result), after)) :
    let turns := ((Run.approach registry last.kind [] front).run world).1.turns
    let performed := last.deliver handed
    conduct registry (front ++ [last]) world =
      .ofReport
        (turns.flatMap Turn.calls ++
          [{ kind := last.kind
             arguments := performed.arguments
             reply := .ok result }])
        after
        ((Report.ofSucceeded performed).behind turns) := by
  intro turns performed
  rw [conduct_eq, Run.course_run_append]
  simp only [reached, Run.course_run_singleton, Step.deliver_kind, answered]
  rw [(Run.tell_append reached 0 _ _).2, List.flatMap_append]
  simp [Turn.calls, Turn.ownCall?, Turn.lookupCall?, Run.tell, Turn.verdict,
    Report.after, Report.ofSucceeded, turns, performed]

theorem conduct_append_eq_of_answered
    (reached :
      ((Run.approach registry last.kind [] front).run world).1.handed? =
        some handed)
    (answered :
      (registry.ask last.kind (last.deliver handed).arguments).run
          ((Run.approach registry last.kind [] front).run world).2 =
        (some (.ok result), after))
    (first : Step)
    (back : List Step) :
    let turns := ((Run.approach registry last.kind [] front).run world).1.turns
    let performed := last.deliver handed
    let crossing := Run.cross registry performed result first.kind after
    let calls :=
      turns.flatMap Turn.calls ++
          [{ kind := last.kind
             arguments := performed.arguments
             reply := .ok result }] ++
        crossing.lookup?.toList
    conduct registry (front ++ last :: first :: back) world =
      match crossing.handed with
      | .error obstacle =>
        .ofReport calls crossing.world
          ((Run.stop front.length [] (performed :: first :: back)
            obstacle).behind turns)
      | .ok forwarded =>
        let told :=
          (Run.course registry forwarded (first :: back)).run crossing.world
        .ofReport (calls ++ told.1.flatMap Turn.calls) told.2
          ((((Run.tell 0 told.1 (first :: back)).later
            (front.length + 1)).after performed []).behind turns) := by
  intro turns performed crossing calls
  rw [conduct_eq, Run.course_run_append]
  simp only [reached, Run.course_run_cross, Step.deliver_kind, answered]
  cases crossed : crossing.handed with
  | error obstacle =>
    dsimp only [crossing, performed] at crossed
    dsimp only
    rw [(Run.tell_append reached 0 _ _).2, Run.tell_cross, crossed,
      List.flatMap_append, List.flatMap_singleton, Run.calls_cross,
      Step.deliver_kind, List.append_cons, Nat.zero_add]
  | ok forwarded =>
    dsimp only [crossing, performed] at crossed
    dsimp only
    rw [(Run.tell_append reached 0 _ _).2, Run.tell_cross, crossed,
      List.flatMap_append, List.flatMap_cons, Run.calls_cross,
      Step.deliver_kind, ← List.append_assoc, List.append_cons,
      ← Conduct.ofReport_unlogged,
      Report.unlogged_behind, Report.unlogged_after, Nat.add_assoc,
      Run.tell_later 0 (front.length + 1), ← Report.unlogged_after,
      ← Report.unlogged_behind, Conduct.ofReport_unlogged]

end

/-- Runs compose.  A run over two lists stops in the first as the run over
this alone does; or it crosses over to the second behind the run over the
first, and goes on as a run over the second, the first step of which has been
handed its arguments. -/
theorem conduct_append
    (registry : Registry (StateM World))
    (front back : List Step)
    (last first : Step)
    (world : World) :
    let alone := conduct registry (front ++ [last]) world
    let whole := conduct registry (front ++ [last] ++ first :: back) world
    (alone.state ≠ .completed → alone.StopsIn whole (first :: back)) ∧
      (alone.state = .completed →
        ∃ arguments result,
          let performed := { last with arguments }
          let crossing :=
            Run.cross registry performed result first.kind alone.world
          alone.calls.getLast? =
              some { kind := last.kind, arguments, reply := .ok result } ∧
            alone.steps.getLast? = some performed.succeeded ∧
            (crossing.lookup?.isSome ↔
              last.kind ≠ .cTime ∧
                first.kind = .condition ∧ (registry.find? .cTime).isSome) ∧
            match crossing.handed with
            | .error obstacle =>
              alone.StopsBehind whole crossing (front.length + 1) performed
                (first :: back) obstacle
            | .ok forwarded =>
              alone.GoesOn
                (conduct registry (first.deliver forwarded :: back)
                  crossing.world)
                whole crossing (front.length + 1)) := by
  intro alone whole
  constructor
  · intro stopped
    dsimp only [alone, whole] at stopped ⊢
    rw [conduct_eq, Conduct.state_ofReport, ne_eq,
      Ending.state_eq_completed_iff] at stopped
    rcases
        Run.course_append_of_stopped registry [] (front ++ [last])
          (first :: back) world 0 stopped with
      ⟨course, told⟩
    rw [conduct_eq, conduct_eq, course, told]
    exact Conduct.stopsIn_leaving _ _ _ _
  · intro completed
    dsimp only [alone, whole] at completed ⊢
    rw [conduct_eq, Conduct.state_ofReport,
      Ending.state_eq_completed_iff] at completed
    -- Both runs are told by the same approach to the last step in front.
    rcases Run.answered_of_completed completed with
      ⟨handed, result, after, reached, answered⟩
    have length := (Run.tell_append reached 0 [] []).1
    rw [List.append_assoc, List.singleton_append,
      conduct_eq_of_answered reached answered,
      conduct_append_eq_of_answered reached answered, ← length]
    refine ⟨(last.deliver handed).arguments, result, ?_⟩
    rw [last.with_arguments_deliver handed]
    refine ⟨List.getLast?_concat, ?_, ?_, ?_⟩
    · simp [Report.behind_eq, Report.ofSucceeded]
    · rw [Run.isSome_lookup?_cross, Step.deliver_kind]
    · rw [Conduct.world_ofReport]
      cases
        (Run.cross registry (last.deliver handed) result first.kind
          after).handed with
      | error obstacle =>
        exact Conduct.stopsBehind_behind _ _ _ _ _ _ _
      | ok forwarded =>
        dsimp only
        rw [conduct_deliver]
        exact Conduct.goesOn_behind _ _ _ _ _ _ _ _

/-- A run crosses over to a condition with a look-up, and stops there if the
budget is spent. -/
theorem conduct_append_budgeted :
    let front : List Step := [{ kind := .create, arguments := ["a.txt"] }]
    let last : Step := { kind := .write, arguments := ["one line"] }
    let first : Step := { kind := .condition, arguments := ["lower"] }
    let back : List Step := [{ kind := .remove }]
    let performed : Step :=
      { kind := .write, arguments := ["create", "one line"] }
    let alone (budget : Nat) := conduct .budgeted (front ++ [last]) budget
    let whole (budget : Nat) :=
      conduct .budgeted (front ++ [last] ++ first :: back) budget
    let crossing (budget : Nat) :=
      Run.cross .budgeted performed "write" .condition budget
    (alone 9).GoesOn
        (conduct .budgeted
          ({ first with arguments := ["lower", "c_time", "write"] } :: back) 6)
        (whole 9) (crossing 7) 2 ∧
      (alone 2).StopsBehind (whole 2) (crossing 0) 2 performed (first :: back)
        (.failure (.notFound .cTime "")) := by
  intro front last first back performed alone whole crossing
  have completed (rest : Nat) :
      (conduct .budgeted (front ++ [last]) (rest + 2)).state = .completed ∧
        (conduct .budgeted (front ++ [last]) (rest + 2)).world = rest ∧
        (conduct .budgeted (front ++ [last]) (rest + 2)).calls.getLast? =
          some ⟨.write, performed.arguments, .ok "write"⟩ := by
    rw [conduct_eq]
    exact ⟨rfl, rfl, rfl⟩
  have composed (budget : Nat) :=
    conduct_append .budgeted front back last first budget
  constructor
  · rcases completed 7 with ⟨state, world, made⟩
    rcases (composed 9).2 state with ⟨arguments, result, called, -, -, across⟩
    cases made.symm.trans called
    rw [world] at across
    exact across
  · rcases completed 0 with ⟨state, world, made⟩
    rcases (composed 2).2 state with ⟨arguments, result, called, -, -, across⟩
    cases made.symm.trans called
    rw [world] at across
    exact across

end Engine

end Scenario
