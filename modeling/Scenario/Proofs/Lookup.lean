import Scenario.Proofs.Insertion
import Scenario.Proofs.Journal

/-!
# Looking a change time up by a step

Between a step and a condition behind it, a run looks a change time up by
itself.  A change-time step without arguments, put between the two, does the
same by the rules for ordinary steps: it is called on what the look-up would be
called on, and hands the condition what the look-up would have handed it.  So
the calls and the world are the same with it and without it, and if the
look-up gives a change time, the two runs differ by this one step.
-/

namespace Scenario

variable {World : Type}

theorem Registry.ask_ne_of_value_ne
    (registry : Registry (StateM World))
    {kind : ActionKind}
    {reply : ActionResult}
    (never :
      ∀ action, registry.find? kind = some action →
        ∀ arguments world, (action arguments world).1.value ≠ reply)
    (arguments : List String)
    (world : World) :
    ((registry.ask kind arguments).run world).1 ≠ some reply := by
  unfold Registry.ask StateT.run
  cases found : registry.find? kind with
  | none =>
    intro answer
    cases answer
  | some action =>
    intro answer
    exact never action found arguments world (Option.some.inj answer)

namespace Run

/-! ## The two courses -/

/-- The course of a step of another kind in front of a condition. -/
theorem course_run_lookup
    (registry : Registry (StateM World))
    (forwarded : List String)
    {current condition : Step}
    (rest : List Step)
    (world : World)
    (other : current.kind ≠ .cTime)
    (isCondition : condition.kind = .condition) :
    let called := current.deliver forwarded
    let own := (registry.ask called.kind called.arguments).run world
    (course registry forwarded (current :: condition :: rest)).run world =
      match own.1 with
      | some (.ok result) =>
        let base := forwardedBase result
        let made := (registry.ask .cTime base).run own.2
        let taken : Turn :=
          { step := called, reply? := some (.ok result), lookup? := made.1 }
        match made.1 with
        | some (.ok stamp) =>
          let told :=
            (course registry (stamp :: base) (condition :: rest)).run made.2
          (taken :: told.1, told.2)
        | _ => ([taken], made.2)
      | reply? => ([{ step := called, reply? }], own.2) := by
  have rule := Forwarding.forPair_condition other
  rw [course_run_cons, turn_run]
  simp only [List.head?_cons, Option.map_some, isCondition, Step.deliver_kind]
  generalize
    (registry.ask current.kind (current.deliver forwarded).arguments).run
      world = own
  rcases own with ⟨_ | (error | result), after⟩
  · rfl
  · cases error <;> rfl
  · simp only [rule, if_true, Turn.verdict, Turn.handover, Step.deliver_kind]
    generalize (registry.ask .cTime (forwardedBase result)).run after = made
    rcases made with ⟨_ | (error | stamp), later⟩
    · rfl
    · rfl
    · rfl

/-- The course of the same step in front of a change-time step without
arguments and a condition behind that. -/
theorem course_run_step
    (registry : Registry (StateM World))
    (forwarded : List String)
    {current lookup condition : Step}
    (rest : List Step)
    (world : World)
    (other : current.kind ≠ .cTime)
    (isLookup : lookup.kind = .cTime)
    (unconfigured : lookup.arguments = [])
    (isCondition : condition.kind = .condition) :
    let called := current.deliver forwarded
    let own := (registry.ask called.kind called.arguments).run world
    (course registry forwarded
        (current :: lookup :: condition :: rest)).run world =
      match own.1 with
      | some (.ok result) =>
        let base := forwardedBase result
        let made := (registry.ask .cTime base).run own.2
        let seen : Turn := { step := called, reply? := some (.ok result) }
        let taken : Turn := { step := lookup.deliver base, reply? := made.1 }
        match made.1 with
        | some (.ok stamp) =>
          let told :=
            (course registry (forwardedBase stamp ++ base)
              (condition :: rest)).run made.2
          (seen :: taken :: told.1, told.2)
        | _ => ([seen, taken], made.2)
      | reply? => ([{ step := called, reply? }], own.2) := by
  have delivered := Step.deliver_arguments_of_unconfigured unconfigured
  have rule := Forwarding.forPair_cTime other
  rw [course_run_cons, turn_run]
  simp only [List.head?_cons, Option.map_some, isLookup, Step.deliver_kind]
  generalize
    (registry.ask current.kind (current.deliver forwarded).arguments).run
      world = own
  rcases own with ⟨_ | (error | result), after⟩
  · rfl
  · cases error <;> rfl
  · simp only [rule, reduceCtorEq, if_false, Turn.verdict, Turn.handover,
      Step.deliver_kind]
    rw [course_run_cons, turn_run]
    simp only [List.head?_cons, Option.map_some, isCondition, isLookup,
      Step.deliver_kind, delivered]
    generalize (registry.ask .cTime (forwardedBase result)).run after = made
    rcases made with ⟨_ | (error | stamp), later⟩
    · rfl
    · cases error <;> rfl
    · simp only [Forwarding.forPair, reduceCtorEq, if_false, Turn.verdict,
        Turn.handover, Step.deliver_kind, isLookup, delivered]

/-- With a change-time step or without it, the calls and the world are the
same.  If the look-up gives a change time, the turns differ in who made it. -/
theorem course_run_step_eq
    (registry : Registry (StateM World))
    (forwarded : List String)
    {current lookup condition : Step}
    (rest : List Step)
    (world : World)
    (stamped :
      ∀ arguments world,
        ((registry.ask .cTime arguments).run world).1 ≠ some (.ok ""))
    (other : current.kind ≠ .cTime)
    (isLookup : lookup.kind = .cTime)
    (unconfigured : lookup.arguments = [])
    (isCondition : condition.kind = .condition) :
    let implicit :=
      (course registry forwarded (current :: condition :: rest)).run world
    let explicit :=
      (course registry forwarded
        (current :: lookup :: condition :: rest)).run world
    explicit.2 = implicit.2 ∧
      explicit.1.flatMap Turn.calls = implicit.1.flatMap Turn.calls ∧
      ∀ turn result stamp,
        implicit.1.head? = some turn →
        turn.reply? = some (.ok result) →
        turn.lookup? = some (.ok stamp) →
          ∃ turns,
            turn.step = current.deliver forwarded ∧
              implicit.1 = turn :: turns ∧
              explicit.1 =
                { turn with lookup? := none } ::
                  { step := lookup.deliver (forwardedBase result)
                    reply? := turn.lookup? } ::
                  turns := by
  rw [course_run_lookup registry forwarded rest world other isCondition,
    course_run_step registry forwarded rest world other isLookup unconfigured
      isCondition]
  have delivered := Step.deliver_arguments_of_unconfigured unconfigured
  generalize
    (registry.ask (current.deliver forwarded).kind
      (current.deliver forwarded).arguments).run world = own
  rcases own with ⟨_ | (error | result), after⟩
  · refine ⟨rfl, rfl, ?_⟩
    rintro turn result stamp ⟨⟩ answered
    cases answered
  · refine ⟨rfl, rfl, ?_⟩
    rintro turn result stamp ⟨⟩ answered
    cases answered
  · have nonempty := stamped (forwardedBase result) after
    dsimp only
    revert nonempty
    generalize (registry.ask .cTime (forwardedBase result)).run after = made
    rcases made with ⟨_ | (error | stamp), later⟩
    · intro nonempty
      refine ⟨rfl, rfl, ?_⟩
      rintro turn result stamp ⟨⟩ answered ⟨⟩
    · intro nonempty
      refine ⟨rfl, ?_, ?_⟩
      · simp [Turn.calls, Turn.ownCall?, Turn.lookupCall?, delivered, isLookup]
      · rintro turn result stamp ⟨⟩ answered ⟨⟩
    · intro nonempty
      -- The step hands its result on only because that is not empty.
      have base : forwardedBase stamp = [stamp] := by
        rw [forwardedBase, if_neg]
        intro empty
        exact nonempty (by simpa using empty)
      dsimp only
      rw [base]
      refine ⟨rfl, ?_, ?_⟩
      · simp [Turn.calls, Turn.ownCall?, Turn.lookupCall?, delivered, isLookup]
      · rintro turn result stamp ⟨⟩ ⟨⟩ ⟨⟩
        exact ⟨_, rfl, rfl, rfl⟩

/-! ## The two records -/

/-- The record of a look-up made by a step has this step put in. -/
theorem tell_step
    (position : Nat)
    {turn : Turn}
    {looked lookup condition : Step}
    {result stamp : String}
    (turns : List Turn)
    (current : Step)
    (rest : List Step)
    (other : turn.step.kind ≠ .cTime)
    (isLooked : looked.kind = .cTime)
    (isLookup : lookup.kind = .cTime)
    (isCondition : condition.kind = .condition)
    (answered : turn.reply? = some (.ok result))
    (found : turn.lookup? = some (.ok stamp)) :
    (tell position
        ({ turn with lookup? := none } ::
          { step := looked, reply? := turn.lookup? } :: turns)
        (current :: lookup :: condition :: rest)).unlogged =
      ((tell position (turn :: turns)
        (current :: condition :: rest)).insert 1 looked).unlogged := by
  have implicit : turn.verdict (some .condition) =
      .passed (stamp :: forwardedBase result) := by
    have rule := Forwarding.forPair_condition other
    simp [Turn.verdict, Turn.handover, answered, found, rule]
  have seen : { turn with lookup? := none }.verdict (some .cTime) =
      .passed (forwardedBase result) := by
    have rule := Forwarding.forPair_cTime other
    simp [Turn.verdict, Turn.handover, answered, rule]
  have taken :
      (Turn.mk looked turn.lookup? none).verdict (some .condition) =
        .passed (forwardedBase stamp ++ looked.arguments) := by
    simp [Turn.verdict, Turn.handover, found, isLooked, Forwarding.forPair]
  rw [← isCondition] at implicit taken
  rw [← isLookup] at seen
  exact tell_insert position turns current lookup condition rest rfl implicit
    seen taken

theorem course_append_step_eq
    (registry : Registry (StateM World))
    (forwarded : List String)
    (front : List Step)
    {current lookup condition : Step}
    (back : List Step)
    (world : World)
    (stamped :
      ∀ arguments world,
        ((registry.ask .cTime arguments).run world).1 ≠ some (.ok ""))
    (other : current.kind ≠ .cTime)
    (isLookup : lookup.kind = .cTime)
    (unconfigured : lookup.arguments = [])
    (isCondition : condition.kind = .condition) :
    let without := front ++ current :: condition :: back
    let listed := front ++ current :: lookup :: condition :: back
    let implicit := (course registry forwarded without).run world
    let explicit := (course registry forwarded listed).run world
    explicit.2 = implicit.2 ∧
      explicit.1.flatMap Turn.calls = implicit.1.flatMap Turn.calls ∧
      ∀ turn result stamp position,
        implicit.1[front.length]? = some turn →
        turn.reply? = some (.ok result) →
        turn.lookup? = some (.ok stamp) →
          (tell position explicit.1 listed).unlogged =
            ((tell position implicit.1 without).insert (front.length + 1)
              (lookup.deliver (forwardedBase result))).unlogged := by
  dsimp only
  rcases course_append_cases registry forwarded front current world with
    ⟨turns, after, few, stopped⟩ | ⟨gone, handed, between, length, told⟩
  · -- Both runs end in front, and neither comes to the look-up.
    rw [stopped, stopped]
    refine ⟨rfl, rfl, ?_⟩
    intro turn result stamp position here
    rw [List.getElem?_eq_none few] at here
    cases here
  · rcases told (condition :: back) with ⟨without, withoutTold⟩
    rcases told (lookup :: condition :: back) with ⟨listed, listedTold⟩
    rcases
        course_run_step_eq registry handed back between stamped other isLookup
          unconfigured isCondition with
      ⟨worlds, calls, differ⟩
    rw [without, listed]
    refine ⟨worlds, ?_, ?_⟩
    · dsimp only
      rw [List.flatMap_append, List.flatMap_append, calls]
    · intro turn result stamp position here answered found
      dsimp only at here ⊢
      rw [← length, List.getElem?_append_right (Nat.le_refl _),
        Nat.sub_self, ← List.head?_eq_getElem?] at here
      rcases differ turn result stamp here answered found with
        ⟨turns, called, implicit, explicit⟩
      have kind : turn.step.kind ≠ .cTime := by
        rw [called, Step.deliver_kind]
        exact other
      have looked : (lookup.deliver (forwardedBase result)).kind = .cTime := by
        rw [Step.deliver_kind]
        exact isLookup
      have recorded := tell_step (position + front.length) turns current
        back kind looked isLookup isCondition answered found
      rw [listedTold, withoutTold, explicit, implicit, Report.unlogged_behind,
        recorded, ← length, Report.insert_behind, Report.unlogged_behind]

end Run

namespace Engine

/-- If no change time is empty, a change-time step in front of a condition
makes the call that the run would have made without it.  If that call gives a
change time, the runs differ by this step alone. -/
theorem run_fresh_lookup_step
    (registry : Registry (StateM World))
    (sink : Sink (StateM World))
    (front back : List Step)
    (current lookup condition : Step)
    (world : World)
    (stamped :
      ∀ action, registry.find? .cTime = some action →
        ∀ arguments world, (action arguments world).1.value ≠ .ok "")
    (other : current.kind ≠ .cTime)
    (isLookup : lookup.kind = .cTime)
    (unconfigured : lookup.arguments = [])
    (isCondition : condition.kind = .condition) :
    let without : Document := {
      steps := front ++ [current, condition] ++ back }
    let listed : Document := {
      steps := front ++ [current, lookup, condition] ++ back }
    let implicit := ((run registry sink { document := without }).run world).1
    let explicit := ((run registry sink { document := listed }).run world).1
    let after := ((Run.steps registry without.steps).run world).2
    let calls (document : Document) :=
      ((run registry.journaled sink.journaled { document }).run
        { world }).2.calls
    calls listed = calls without ∧
      ((Run.steps registry listed.steps).run world).2 = after ∧
      ∀ turn result stamp,
        ((Run.course registry [] without.steps).run world).1[front.length]? =
          some turn →
        turn.reply? = some (.ok result) →
        turn.lookup? = some (.ok stamp) →
          implicit.Inserted explicit (front.length + 1)
              { kind := .cTime
                arguments := forwardedBase result
                result? := some .success } ∧
            (((sink explicit.engine.document).run after).1.value =
                ((sink implicit.engine.document).run after).1.value →
              explicit.result = implicit.resultLater 1) := by
  have answers := registry.ask_ne_of_value_ne stamped
  intro without listed implicit explicit after calls
  have withoutSteps :
      without.steps = front ++ current :: condition :: back := by
    simp [without]
  have listedSteps :
      listed.steps = front ++ current :: lookup :: condition :: back := by
    simp [listed]
  rcases
      Run.course_append_step_eq registry [] front back world answers other
        isLookup unconfigured isCondition with
    ⟨worlds, called, told⟩
  rw [← withoutSteps, ← listedSteps] at worlds called told
  have leaves :
      ((Run.steps registry listed.steps).run world).2 = after := by
    rw [(Run.steps_run registry listed.steps world).2, worlds]
    exact (Run.steps_run registry without.steps world).2.symm
  refine ⟨?_, leaves, ?_⟩
  · dsimp only [calls]
    rw [run_fresh_calls, run_fresh_calls, called]
  · intro turn result stamp here answered found
    have recorded := told turn result stamp 0 here answered found
    have inside : front.length + 1 ≤ without.size := by
      rw [Document.size, withoutSteps, List.length_append]
      simp
    have looked :
        (lookup.deliver (forwardedBase result)).succeeded =
          { kind := .cTime
            arguments := forwardedBase result
            result? := some .success } := by
      rw [Step.succeeded, Step.deliver_kind, isLookup,
        Step.deliver_arguments_of_unconfigured unconfigured]
    constructor
    · rw [← looked]
      exact run_fresh_inserted sink inside recorded
    · intro alike
      refine run_fresh_result_inserted sink recorded ?_
      dsimp only [explicit, implicit] at alike
      rw [run_fresh_document, run_fresh_document] at alike
      rw [leaves]
      exact alike

/-- A change time looked up by a step of its own, or by the run. -/
theorem run_fresh_lookup_step_budgeted :
    let first : Step := { kind := .create, arguments := ["a.txt"] }
    let current : Step := { kind := .write, arguments := ["one line"] }
    let condition : Step := { kind := .condition }
    let last : Step := { kind := .remove }
    let implicit := ((run .budgeted Sink.accepting {
      document := { steps := [first, current, condition, last] } }).run 9).1
    let explicit := ((run .budgeted Sink.accepting {
      document := {
        steps := [first, current, { kind := .cTime }, condition, last] }
      }).run 9).1
    implicit.Inserted explicit 2
        { kind := .cTime, arguments := ["write"], result? := some .success } ∧
      explicit.result = implicit.resultLater 1 := by
  intro first current condition last implicit explicit
  have stamped :
      ∀ action, Registry.budgeted.find? .cTime = some action →
        ∀ arguments budget, (action arguments budget).1.value ≠ .ok "" := by
    rintro action ⟨⟩ arguments budget
    cases budget with
    | zero => simp
    | succ budget => simp [ActionKind.name]
  rcases
      run_fresh_lookup_step .budgeted Sink.accepting [first] [last] current
        { kind := .cTime } condition 9 stamped (by decide) rfl rfl rfl with
    ⟨-, -, differ⟩
  rcases differ _ "write" "c_time" rfl rfl rfl with ⟨inserted, alike⟩
  exact ⟨inserted, alike rfl⟩

end Engine

end Scenario
