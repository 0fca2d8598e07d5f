import Scenario.Proofs.Order

/-!
# From a step to the next

A step that has given a result, and is not the last, is followed by a crossing
to the next step.  A change time may have to be looked up in it, and if that
gives nothing, the run ends there; otherwise the next step is handed arguments.
The table of what is looked up and handed on is written out here once more, in
terms of what the actions give, and `course_run_cross` says that every course
keeps to it.
-/

namespace Scenario

variable {World : Type}

/-- What happens between a step that has given a result and the next. -/
structure Crossing (World : Type) where
  /-- The look-up of a change time, if it was made. -/
  lookup? : Option Call := none
  /-- What the next step is handed, or what keeps the run from coming to it. -/
  handed : Except Obstacle (List String)
  world : World

namespace Run

/-- Cross over from a step, performed with the given result, to a step of the
given kind. -/
def cross
    (registry : Registry (StateM World))
    (current : Step)
    (result : String)
    (next : ActionKind)
    (world : World) :
    Crossing World :=
  let base := forwardedBase result
  if current.kind = .cTime then
    if next = .condition then
      { handed := .ok (base ++ current.arguments), world }
    else
      { handed := .ok current.arguments, world }
  else if next = .condition then
    match registry.find? .cTime with
    | none => { handed := .error (.unregistered .cTime), world }
    | some action =>
      let answer := (action base).run world
      { lookup? := some {
          kind := .cTime, arguments := base, reply := answer.1.value }
        handed :=
          match answer.1.value with
          | .ok stamp => .ok (stamp :: base)
          | .error error => .error (.failure error)
        world := answer.2 }
  else
    { handed := .ok base, world }

/-- A change time is looked up exactly between a step of another kind and a
condition, if there is an action to ask. -/
theorem isSome_lookup?_cross
    (registry : Registry (StateM World))
    (current : Step)
    (result : String)
    (next : ActionKind)
    (world : World) :
    (cross registry current result next world).lookup?.isSome ↔
      current.kind ≠ .cTime ∧
        next = .condition ∧ (registry.find? .cTime).isSome := by
  unfold cross
  by_cases stamp : current.kind = .cTime
  · by_cases condition : next = .condition <;> simp [stamp, condition]
  · by_cases condition : next = .condition
    · cases registry.find? .cTime <;> simp [stamp, condition]
    · simp [stamp, condition]

theorem handed_cross_eq_unregistered_iff
    (registry : Registry (StateM World))
    (current : Step)
    (result : String)
    (next kind : ActionKind)
    (world : World) :
    (cross registry current result next world).handed =
        .error (.unregistered kind) ↔
      current.kind ≠ .cTime ∧
        next = .condition ∧ registry.find? .cTime = none ∧ kind = .cTime := by
  unfold cross
  by_cases stamp : current.kind = .cTime
  · by_cases condition : next = .condition <;> simp [stamp, condition]
  · by_cases condition : next = .condition
    · cases registry.find? .cTime with
      | none => simp [stamp, condition, eq_comm]
      | some action =>
        simp only [stamp, condition, if_true, if_false]
        cases ((action (forwardedBase result)).run world).1.value <;> simp
    · simp [stamp, condition]

theorem forPair_eq (current next : ActionKind) :
    Forwarding.forPair current next =
      if current = .cTime then
        if next = .condition then .resultThenConfigured
        else .configuredArguments
      else if next = .condition then .implicitCTime
      else .result := by
  cases current <;> cases next <;> rfl

/-- The table in terms of the rule for the two kinds. -/
theorem cross_eq
    (registry : Registry (StateM World))
    (current : Step)
    (result : String)
    (next : ActionKind)
    (world : World) :
    let base := forwardedBase result
    cross registry current result next world =
      match Forwarding.forPair current.kind next with
      | .result => { handed := .ok base, world }
      | .configuredArguments => { handed := .ok current.arguments, world }
      | .resultThenConfigured =>
        { handed := .ok (base ++ current.arguments), world }
      | .implicitCTime =>
        let asked := (registry.ask .cTime base).run world
        { lookup? := asked.1.map (Call.mk .cTime base)
          handed :=
            match asked.1 with
            | none => .error (.unregistered .cTime)
            | some (.error error) => .error (.failure error)
            | some (.ok stamp) => .ok (stamp :: base)
          world := asked.2 } := by
  rw [forPair_eq]
  unfold cross
  by_cases stamp : current.kind = .cTime
  · by_cases condition : next = .condition
    · simp only [stamp, condition, if_true]
    · simp only [stamp, condition, if_true, if_false]
  · by_cases condition : next = .condition
    · simp only [stamp, condition, if_true, if_false, Registry.ask,
        StateT.run]
      cases registry.find? .cTime with
      | none => rfl
      | some action =>
        dsimp only [Option.map_some]
        cases (action (forwardedBase result) world).1.value <;> rfl
    · simp only [stamp, condition, if_false]

section

variable
    (registry : Registry (StateM World))
    (current : Step)
    (result : String)
    (next : ActionKind)

/-- A change time is looked up for the base, and by nothing else. -/
theorem map_reply_lookup?_cross (world : World) :
    (cross registry current result next world).lookup?.map
        (Call.mk .cTime (forwardedBase result) ∘ Call.reply) =
      (cross registry current result next world).lookup? := by
  rw [cross_eq]
  cases Forwarding.forPair current.kind next with
  | implicitCTime =>
    dsimp only
    cases ((registry.ask .cTime (forwardedBase result)).run world).1 <;> rfl
  | _ => rfl

/-- The turn of a step that gives a result crosses over to the next step. -/
theorem turn_run_cross
    {world after : World}
    (answered :
      (registry.ask current.kind current.arguments).run world =
        (some (.ok result), after)) :
    let crossing := cross registry current result next after
    (turn registry current (some next)).run world =
      ({ step := current
         reply? := some (.ok result)
         lookup? := crossing.lookup?.map Call.reply },
        crossing.world) := by
  rw [turn_run, answered, cross_eq]
  dsimp only
  cases Forwarding.forPair current.kind next with
  | implicitCTime =>
    rw [if_pos rfl]
    cases ((registry.ask .cTime (forwardedBase result)).run after).1 <;> rfl
  | _ => rfl

theorem verdict_cross (world : World) :
    let crossing := cross registry current result next world
    Turn.verdict
        { step := current
          reply? := some (.ok result)
          lookup? := crossing.lookup?.map Call.reply }
        (some next) =
      match crossing.handed with
      | .ok handed => .passed handed
      | .error obstacle => .stopped obstacle := by
  dsimp only [Turn.verdict, Turn.handover]
  rw [cross_eq]
  cases Forwarding.forPair current.kind next with
  | implicitCTime =>
    dsimp only
    rcases ((registry.ask .cTime (forwardedBase result)).run world).1 with
      _ | (error | stamp) <;> rfl
  | _ => rfl

theorem calls_cross (world : World) :
    let crossing := cross registry current result next world
    Turn.calls
        { step := current
          reply? := some (.ok result)
          lookup? := crossing.lookup?.map Call.reply } =
      { kind := current.kind
        arguments := current.arguments
        reply := .ok result } ::
        crossing.lookup?.toList := by
  dsimp only [Turn.calls, Turn.ownCall?, Turn.lookupCall?]
  rw [Option.map_map, map_reply_lookup?_cross]
  rfl

end

/-! ## Courses -/

/-- The course of a step that is the last. -/
theorem course_run_singleton
    (registry : Registry (StateM World))
    (forwarded : List String)
    (current : Step)
    (world : World) :
    let called := current.deliver forwarded
    let own := (registry.ask called.kind called.arguments).run world
    (course registry forwarded [current]).run world =
      ([{ step := called, reply? := own.1 }], own.2) := by
  rw [course_run_cons, turn_run]
  dsimp only [List.head?_nil, Option.map_none]
  generalize
    (registry.ask (current.deliver forwarded).kind
      (current.deliver forwarded).arguments).run world = own
  rcases own with ⟨_ | (error | result), after⟩
  · rfl
  · cases error <;> rfl
  · rfl

/-- The course of a step that is not the last. -/
theorem course_run_cross
    (registry : Registry (StateM World))
    (forwarded : List String)
    (current next : Step)
    (rest : List Step)
    (world : World) :
    let called := current.deliver forwarded
    let own := (registry.ask called.kind called.arguments).run world
    (course registry forwarded (current :: next :: rest)).run world =
      match own.1 with
      | some (.ok result) =>
        let crossing := cross registry called result next.kind own.2
        let taken : Turn := {
          step := called
          reply? := some (.ok result)
          lookup? := crossing.lookup?.map Call.reply }
        match crossing.handed with
        | .ok handed =>
          let told := (course registry handed (next :: rest)).run crossing.world
          (taken :: told.1, told.2)
        | .error _ => ([taken], crossing.world)
      | reply? => ([{ step := called, reply? }], own.2) := by
  rw [course_run_cons]
  dsimp only [List.head?_cons, Option.map_some]
  cases own :
      (registry.ask (current.deliver forwarded).kind
        (current.deliver forwarded).arguments).run world with
  | mk reply? after =>
    rcases reply? with _ | (error | result)
    · rw [turn_run, own]
      rfl
    · rw [turn_run, own]
      cases error <;> rfl
    · rw [turn_run_cross registry (current.deliver forwarded) result
        next.kind own]
      dsimp only
      rw [verdict_cross]
      cases
        (cross registry (current.deliver forwarded) result next.kind
          after).handed <;> rfl

theorem tell_cross
    (registry : Registry (StateM World))
    (position : Nat)
    (current : Step)
    (result : String)
    (world : World)
    (turns : List Turn)
    (configured next : Step)
    (rest : List Step) :
    let crossing := cross registry current result next.kind world
    let taken : Turn := {
      step := current
      reply? := some (.ok result)
      lookup? := crossing.lookup?.map Call.reply }
    tell position (taken :: turns) (configured :: next :: rest) =
      match crossing.handed with
      | .ok _ => (tell (position + 1) turns (next :: rest)).after current []
      | .error obstacle =>
        stop position [] (current :: next :: rest) obstacle := by
  dsimp only [tell, List.head?_cons, Option.map_some]
  rw [verdict_cross]
  cases (cross registry current result next.kind world).handed <;> rfl

/-- A course may as well begin with what its first step has been handed. -/
theorem course_deliver
    (registry : Registry (StateM World))
    (forwarded : List String)
    (first : Step)
    (rest : List Step) :
    course registry [] (first.deliver forwarded :: rest) =
      course registry forwarded (first :: rest) := by
  rw [course, course, Step.deliver_nil]

/-- A record knows a step whose turn came by the turn. -/
theorem tell_head
    (position : Nat)
    (turns : List Turn)
    (first other : Step)
    (rest : List Step) :
    tell position turns (first :: rest) =
      tell position turns (other :: rest) := by
  cases turns <;> rfl

end Run

end Scenario
