import Scenario.Proofs.Crossing
import Scenario.Proofs.Insertion
import Scenario.Proofs.Journal

/-!
# Change times read in passing

A change-time step without arguments of its own is called on what the step in
front hands on.  Unless a condition stands behind it, it hands on just that,
and the change time is dropped.  So it can be put between any two steps of
which the second is no condition, and both do what they would have done
without it.  If asking for a change time leaves the world as it was, the two
runs differ by this one step and its one call.
-/

namespace Scenario

variable {World : Type}

/-- Asking for a change time leaves the world as it was if the action does. -/
theorem Registry.ask_snd_of_quiet
    {registry : Registry (StateM World)}
    {kind : ActionKind}
    (quiet :
      ∀ action, registry.find? kind = some action →
        ∀ arguments world, (action arguments world).2 = world)
    (arguments : List String)
    (world : World) :
    ((registry.ask kind arguments).run world).2 = world := by
  simp only [Registry.ask, StateT.run]
  cases found : registry.find? kind with
  | none => rfl
  | some action => exact quiet action found arguments world

namespace Run

/-- What a step hands on to a step that is no condition. -/
def handedOn (current : Step) (result : String) : List String :=
  if current.kind = .cTime then current.arguments else forwardedBase result

/-- A change-time step hands on what it was called on. -/
theorem handedOn_of_cTime
    {current : Step}
    (isRead : current.kind = .cTime)
    (result : String) :
    handedOn current result = current.arguments :=
  if_pos isRead

/-- In front of a step that is no condition nothing is looked up, and what is
handed on depends on the first of the two steps alone. -/
theorem cross_of_ne_condition
    (registry : Registry (StateM World))
    (current : Step)
    (result : String)
    {next : ActionKind}
    (plain : next ≠ .condition)
    (world : World) :
    cross registry current result next world =
      { handed := .ok (handedOn current result), world } := by
  by_cases isRead : current.kind = .cTime
  · simp [cross, handedOn, isRead, plain]
  · simp [cross, handedOn, isRead, plain]

theorem verdict_of_ne_condition
    (current : Step)
    (result : String)
    {next : ActionKind}
    (plain : next ≠ .condition) :
    Turn.verdict { step := current, reply? := some (.ok result) }
        (some next) =
      .passed (handedOn current result) := by
  by_cases isRead : current.kind = .cTime
  · simp [Turn.verdict, Turn.handover, forPair_eq, handedOn, isRead, plain]
  · simp [Turn.verdict, Turn.handover, forPair_eq, handedOn, isRead, plain]

/-- The course of a step in front of one that is no condition. -/
theorem course_run_of_ne_condition
    (registry : Registry (StateM World))
    (forwarded : List String)
    (current : Step)
    {next : Step}
    (plain : next.kind ≠ .condition)
    (rest : List Step)
    (world : World) :
    let called := current.deliver forwarded
    let own := (registry.ask called.kind called.arguments).run world
    (course registry forwarded (current :: next :: rest)).run world =
      match own.1 with
      | some (.ok result) =>
        let told :=
          (course registry (handedOn called result) (next :: rest)).run own.2
        ({ step := called, reply? := some (.ok result) } :: told.1, told.2)
      | reply? => ([{ step := called, reply? }], own.2) := by
  rw [course_run_cross]
  dsimp only
  generalize
    (registry.ask (current.deliver forwarded).kind
      (current.deliver forwarded).arguments).run world = own
  rcases own with ⟨_ | (error | result), after⟩
  · rfl
  · rfl
  · dsimp only
    rw [cross_of_ne_condition registry _ _ plain]
    rfl

/-- The first turn of a course is that of the first step. -/
theorem head?_course
    (registry : Registry (StateM World))
    (forwarded : List String)
    (first : Step)
    (rest : List Step)
    (world : World) :
    ((course registry forwarded (first :: rest)).run world).1.head?.map
        Turn.step =
      some (first.deliver forwarded) := by
  rw [course_run_cons]
  split
  · simp
  · simp

/-- Two runs are the same, turn by turn, but for one turn that one of them has
behind the turn at a position: that of a step that is called on the arguments
which the step behind is handed in both runs. -/
structure ReadsInPassing
    (read next : Step)
    (stamp : String)
    (handed : List String)
    (front behind : List Turn)
    (turn : Turn)
    (direct passing : List Turn) : Prop where
  direct_eq : direct = front ++ behind
  passing_eq : passing = front ++ turn :: behind
  turn_eq : turn = { step := read.deliver handed, reply? := some (.ok stamp) }
  behind_eq : behind.head?.map Turn.step = some (next.deliver handed)

section

variable
    {registry : Registry (StateM World)}
    {current read next : Step}
    {turn : Turn}
    {stamp : String}
    (quiet :
      ∀ arguments world,
        ((registry.ask .cTime arguments).run world).2 = world)
    (isRead : read.kind = .cTime)
    (unconfigured : read.arguments = [])
    (plain : next.kind ≠ .condition)
    (answered : turn.reply? = some (.ok stamp))

include quiet isRead unconfigured plain answered

theorem course_run_in_passing
    (forwarded : List String)
    (rest : List Step)
    (world : World)
    (here :
      ((course registry forwarded
        (current :: read :: next :: rest)).run world).1[1]? = some turn) :
    let without := current :: next :: rest
    let listed := current :: read :: next :: rest
    let direct := (course registry forwarded without).run world
    let passing := (course registry forwarded listed).run world
    passing.2 = direct.2 ∧
      ∃ handed first turns,
        ReadsInPassing read next stamp handed [first] turns turn direct.1
            passing.1 ∧
          ∀ position,
            (tell position passing.1 listed).unlogged =
              ((tell position direct.1 without).insert 1
                turn.step).unlogged := by
  have readPlain : read.kind ≠ .condition := by
    rw [isRead]
    exact nofun
  intro without listed direct passing
  dsimp only [direct, passing, without, listed]
  rw [course_run_of_ne_condition registry forwarded current readPlain] at here
  rw [course_run_of_ne_condition registry forwarded current readPlain,
    course_run_of_ne_condition registry forwarded current plain]
  generalize
    (registry.ask (current.deliver forwarded).kind
      (current.deliver forwarded).arguments).run world = own at *
  rcases own with ⟨_ | (error | result), after⟩
  · cases here
  · cases here
  · dsimp only at here ⊢
    generalize handed_eq :
      handedOn (current.deliver forwarded) result = handed at *
    have arguments := Step.deliver_arguments_of_unconfigured unconfigured handed
    have kind : (read.deliver handed).kind = .cTime := by
      rw [Step.deliver_kind]
      exact isRead
    have unchanged := quiet handed after
    rw [course_run_of_ne_condition registry handed read plain, arguments,
      kind] at here ⊢
    generalize (registry.ask .cTime handed).run after = asked at *
    rcases asked with ⟨_ | (error | told), later⟩
    · cases here
      cases answered
    · cases here
      cases answered
    · cases here
      cases answered
      dsimp only at unchanged ⊢
      rw [handedOn_of_cTime kind, arguments, unchanged]
      refine ⟨rfl, handed, _, _, {
        direct_eq := rfl
        passing_eq := rfl
        turn_eq := rfl
        behind_eq := head?_course registry handed next rest after }, ?_⟩
      intro position
      exact tell_insert position _ current read next rest rfl
        (verdict_of_ne_condition _ result plain)
        (verdict_of_ne_condition _ result readPlain)
        (verdict_of_ne_condition _ stamp plain)

/-- What stands in front of the three steps changes nothing in this. -/
theorem course_append_in_passing
    (forwarded : List String)
    (front back : List Step)
    (world : World)
    (here :
      ((course registry forwarded
        (front ++ current :: read :: next :: back)).run
          world).1[front.length + 1]? = some turn) :
    let without := front ++ current :: next :: back
    let listed := front ++ current :: read :: next :: back
    let direct := (course registry forwarded without).run world
    let passing := (course registry forwarded listed).run world
    passing.2 = direct.2 ∧
      ∃ handed before behind,
        before.length = front.length + 1 ∧
          ReadsInPassing read next stamp handed before behind turn direct.1
            passing.1 ∧
          ∀ position,
            (tell position passing.1 listed).unlogged =
              ((tell position direct.1 without).insert (front.length + 1)
                turn.step).unlogged := by
  intro without listed direct passing
  rcases course_append_cases registry forwarded front current world with
    ⟨turns, after, few, stopped⟩ | ⟨gone, given, between, length, told⟩
  · -- A run that ends in front does not come to the step.
    rw [stopped, List.getElem?_eq_none (Nat.le_succ_of_le few)] at here
    cases here
  · rcases told (next :: back) with ⟨directRun, directTold⟩
    rcases told (read :: next :: back) with ⟨passingRun, passingTold⟩
    rw [passingRun, List.getElem?_append_right (by omega), length,
      Nat.add_sub_cancel_left] at here
    rcases
        course_run_in_passing quiet isRead unconfigured plain answered given
          back between here with
      ⟨worlds, handed, first, turns, reads, recorded⟩
    dsimp only [direct, passing, without, listed]
    rw [directRun, passingRun]
    refine ⟨worlds, handed, gone ++ [first], turns, by simp [length], {
      direct_eq := by
        rw [reads.direct_eq, List.append_assoc]
      passing_eq := by
        rw [reads.passing_eq, List.append_assoc]
      turn_eq := reads.turn_eq
      behind_eq := reads.behind_eq }, ?_⟩
    intro position
    rw [passingTold, directTold, Report.unlogged_behind, recorded, ← length,
      Report.insert_behind, Report.unlogged_behind]

end

/-- The place of the first of some turns in a record holds what it was
performed on. -/
theorem Orderly.arguments_getElem?_tell
    {registry : Registry (StateM World)}
    {forwarded : List String}
    {list : List Step}
    {before behind : List Turn}
    (orderly : Orderly registry forwarded list (before ++ behind))
    (position : Nat)
    {index : Nat}
    (length : before.length = index)
    {step : Step}
    (first : behind.head?.map Turn.step = some step) :
    (tell position (before ++ behind) list).steps[index]?.map
        Step.arguments =
      some step.arguments := by
  rw [Option.map_eq_some_iff] at first
  rcases first with ⟨turn, here, rfl⟩
  rw [List.head?_eq_getElem?] at here
  have place : (before ++ behind)[index]? = some turn := by
    rw [List.getElem?_append_right (Nat.le_of_eq length), length, Nat.sub_self]
    exact here
  have left := orderly.unmarked_getElem?_tell position place
  rw [Option.map_eq_some_iff] at left ⊢
  rcases left with ⟨recorded, found, same⟩
  exact ⟨recorded, found, ((Step.unmarked_eq_unmarked_iff _ _).mp same).2⟩

end Run

namespace Engine

/-- If asking for a change time leaves the world as it was, a change-time step
in front of a step that is no condition can be left out.  Its call is missing
then, which was made on the arguments that the step behind is handed in both
runs, and nothing else is. -/
theorem run_fresh_reads_in_passing
    (registry : Registry (StateM World))
    (sink : Sink (StateM World))
    (front back : List Step)
    (current read next : Step)
    (world : World)
    (quiet :
      ∀ action, registry.find? .cTime = some action →
        ∀ arguments world, (action arguments world).2 = world)
    (isRead : read.kind = .cTime)
    (unconfigured : read.arguments = [])
    (plain : next.kind ≠ .condition)
    (turn : Turn)
    (stamp : String)
    (reached :
      ((Run.course registry []
        (front ++ [current, read, next] ++ back)).run
          world).1[front.length + 1]? = some turn)
    (answered : turn.reply? = some (.ok stamp)) :
    let without : Document := {
      steps := front ++ [current, next] ++ back }
    let listed : Document := {
      steps := front ++ [current, read, next] ++ back }
    let direct := ((run registry sink { document := without }).run world).1
    let passing := ((run registry sink { document := listed }).run world).1
    let after := ((Run.steps registry without.steps).run world).2
    let told := ((Run.course registry [] listed.steps).run world).1
    let calls (document : Document) :=
      ((run registry.journaled sink.journaled { document }).run
        { world }).2.calls
    let arguments (run : EngineRun) (position : Nat) :=
      run.engine.document.steps[position]?.map Step.arguments
    ((Run.steps registry listed.steps).run world).2 = after ∧
      (∃ handed before behind,
        before = (told.take (front.length + 1)).flatMap Turn.calls ∧
          calls without = before ++ behind ∧
          calls listed =
            before ++
              { kind := .cTime, arguments := handed, reply := .ok stamp } ::
              behind ∧
          arguments direct (front.length + 1) =
            some (next.deliver handed).arguments ∧
          arguments passing (front.length + 2) =
            some (next.deliver handed).arguments ∧
          direct.Inserted passing (front.length + 1)
            { kind := .cTime
              arguments := handed
              result? := some .success }) ∧
      (((sink passing.engine.document).run after).1.value =
          ((sink direct.engine.document).run after).1.value →
        passing.result = direct.resultLater 1) := by
  have silent := Registry.ask_snd_of_quiet quiet
  intro without listed direct passing after told calls arguments
  have withoutSteps :
      without.steps = front ++ current :: next :: back := by
    simp [without]
  have listedSteps :
      listed.steps = front ++ current :: read :: next :: back := by
    simp [listed]
  replace reached :
      ((Run.course registry [] listed.steps).run
        world).1[front.length + 1]? = some turn :=
    reached
  rw [listedSteps] at reached
  rcases
      Run.course_append_in_passing silent isRead unconfigured plain answered []
        front back world reached with
    ⟨worlds, handed, before, behind, length, reads, recorded⟩
  rw [← withoutSteps, ← listedSteps] at worlds reads recorded
  have leaves :
      ((Run.steps registry listed.steps).run world).2 = after := by
    rw [(Run.steps_run registry listed.steps world).2, worlds]
    exact (Run.steps_run registry without.steps world).2.symm
  have inside : front.length + 1 ≤ without.size := by
    rw [Document.size, withoutSteps, List.length_append]
    simp
  have called : turn.step.succeeded = {
      kind := .cTime
      arguments := handed
      result? := some .success } := by
    rw [reads.turn_eq, Step.succeeded, Step.deliver_kind, isRead,
      Step.deliver_arguments_of_unconfigured unconfigured]
  refine ⟨leaves, ⟨handed, before.flatMap Turn.calls,
    behind.flatMap Turn.calls, ?_, ?_, ?_, ?_, ?_, ?_⟩, ?_⟩
  · dsimp only [told]
    rw [reads.passing_eq, List.take_left' length]
  · dsimp only [calls]
    rw [run_fresh_calls, reads.direct_eq, List.flatMap_append]
  · dsimp only [calls]
    rw [run_fresh_calls, reads.passing_eq, List.flatMap_append,
      List.flatMap_cons, reads.turn_eq]
    simp [Turn.calls, Turn.ownCall?, Turn.lookupCall?, isRead,
      Step.deliver_arguments_of_unconfigured unconfigured]
  · have orderly := Run.course_orderly registry [] without.steps world
    dsimp only [arguments, direct]
    rw [run_fresh_steps, record]
    rw [reads.direct_eq] at orderly ⊢
    exact orderly.arguments_getElem?_tell 0 length reads.behind_eq
  · have orderly := Run.course_orderly registry [] listed.steps world
    dsimp only [arguments, passing]
    rw [run_fresh_steps, record]
    rw [reads.passing_eq, List.append_cons] at orderly ⊢
    exact orderly.arguments_getElem?_tell 0 (by simp [length]) reads.behind_eq
  · rw [← called]
    exact run_fresh_inserted sink inside (recorded 0)
  · intro alike
    refine run_fresh_result_inserted sink (recorded 0) ?_
    dsimp only [passing, direct] at alike
    rw [run_fresh_document, run_fresh_document] at alike
    rw [leaves]
    exact alike

/-- A change time read between writing a file and giving it another name. -/
theorem run_fresh_reads_in_passing_budgeted :
    let registry : Registry (StateM Nat) :=
      Registry.budgeted.register .cTime fun _ budget =>
        ({ value := .ok "2024-01-01 00:00:00" }, budget)
    let first : Step := { kind := .create, arguments := ["a.txt"] }
    let current : Step := { kind := .write, arguments := ["one line"] }
    let read : Step := { kind := .cTime }
    let next : Step := { kind := .rename, arguments := ["b.txt"] }
    let last : Step := { kind := .remove }
    let run (steps : List Step) :=
      ((run registry Sink.accepting { document := { steps } }).run 9).1
    let direct := run [first, current, next, last]
    let passing := run [first, current, read, next, last]
    direct.Inserted passing 2
        { kind := .cTime, arguments := ["write"], result? := some .success } ∧
      passing.result = direct.resultLater 1 := by
  intro registry first current read next last run direct passing
  have quiet :
      ∀ action, registry.find? .cTime = some action →
        ∀ arguments budget, (action arguments budget).2 = budget := by
    rintro action ⟨⟩ arguments budget
    rfl
  rcases
      run_fresh_reads_in_passing registry Sink.accepting [first] [last] current
        read next 9 quiet rfl rfl nofun _ "2024-01-01 00:00:00" rfl rfl with
    ⟨-, ⟨handed, before, behind, -, -, -, named, -, inserted⟩, alike⟩
  have only : handed = ["write"] := by
    have recorded :
        direct.engine.document.steps[2]?.map Step.arguments =
          some ["write", "b.txt"] := by
      dsimp only [direct, run]
      rw [run_fresh_steps]
      rfl
    have delivered := Option.some.inj (recorded.symm.trans named)
    exact (List.append_inj_left' delivered rfl).symm
  rw [only] at inserted
  exact ⟨inserted, alike rfl⟩

end Engine

end Scenario
