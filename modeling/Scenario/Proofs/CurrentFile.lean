import Scenario.Proofs.Actions
import Scenario.Proofs.Barred
import Scenario.Proofs.Calls
import Scenario.Proofs.FileTree.Added

/-!
# The current file

With the built-in actions, what is handed from step to step is one file: the
one that a step was about when it was done, under the name that it then had.  A
removal leaves none.  A condition is handed the change time of the file in
front of it, so none comes behind a step that leaves no file.
-/

namespace Scenario

/-- The file that a step is about, once it is done. -/
def Step.currentFile? (step : Step) : Option String :=
  match step.kind with
  | .create => step.arguments.head?
  | .write => step.arguments.head?
  | .cTime => step.arguments.head?
  | .rename => step.arguments[1]?
  | .condition => step.arguments.getLast?
  | .remove => none
  | .unknown => none

/-- The change time that is told of the file that a path names, if there is
one. -/
def Host.changeStamp? (host : Host) (path : String) : Option String :=
  (host.fileStatus? path).bind FileStatus.stamp?

namespace BuiltIn

/-- What the change-time action gives on a host. -/
def changeTimeOn (host : Host) (arguments : List String) : ActionResult :=
  ((changeTime arguments : StateM Host _).run host).1.value

/-- Asking for a change time answers with a stamp, unless the path names no
file or the calendar does not have the change time. -/
theorem changeTimeOn_eq (host : Host) (path : String) :
    changeTimeOn host [path] =
      match host.fileStatus? path with
      | none => .error (.notFound .cTime path)
      | some status =>
        match status.stamp? with
        | none => .error (.io .cTime path .changeTimeOutOfRange)
        | some stamp => .ok stamp := by
  rw [changeTimeOn, changeTime_run]
  rcases host.fileStatus? path with _ | status
  · rfl
  · dsimp only
    cases status.stamp? <;> rfl

theorem changeTimeOn_eq_ok_iff
    (host : Host)
    (path stamp : String) :
    changeTimeOn host [path] = .ok stamp ↔
      host.changeStamp? path = some stamp := by
  rw [changeTimeOn_eq, Host.changeStamp?]
  rcases host.fileStatus? path with _ | status
  · simp
  · cases told : status.stamp? <;> simp [told]

/-! ## What is handed on -/

/-- The current file as a list of arguments: a file without a name is none. -/
def carried (step : Step) : List String :=
  forwardedBase (step.currentFile?.getD "")

theorem carried_of_named
    {step : Step}
    {file : String}
    (current : step.currentFile? = some file)
    (named : file ≠ "") :
    carried step = [file] := by
  simp [carried, forwardedBase, current, named]

theorem carried_of_unnamed
    {step : Step}
    (unnamed : step.kind = .remove ∨ step.currentFile? = some "") :
    carried step = [] := by
  rcases unnamed with removed | empty
  · simp [carried, forwardedBase, Step.currentFile?, removed]
  · simp [carried, forwardedBase, empty]

variable
    {host after : Host}
    {step : Step}
    {result : String}

/-- Every step but a removal has a file, and only that of a condition may lack
a name. -/
theorem Gives.exists_currentFile
    (gives : Gives host after step.kind step.arguments result)
    (kept : step.kind ≠ .remove) :
    ∃ file,
      step.currentFile? = some file ∧
        (file = "" → step.kind = .condition) := by
  rcases step with ⟨kind, arguments, mark?⟩
  dsimp only at gives kept
  cases gives with
  | create named => exact ⟨_, rfl, fun empty => (named empty).elim⟩
  | remove => exact (kept rfl).elim
  | rename named => exact ⟨_, rfl, fun empty => (named empty).elim⟩
  | cTime named stamped unchanged answered =>
    exact ⟨_, rfl, fun empty => (named empty).elim⟩
  | write named => exact ⟨_, rfl, fun empty => (named empty).elim⟩
  | condition last => exact ⟨result, last, fun _ => rfl⟩

/-- A step that is no change-time step gives its file. -/
theorem Gives.forwardedBase_eq_carried
    (gives : Gives host after step.kind step.arguments result)
    (other : step.kind ≠ .cTime) :
    forwardedBase result = carried step := by
  rcases step with ⟨kind, arguments, mark?⟩
  dsimp only at gives other
  cases gives with
  | create named => rfl
  | remove => rfl
  | rename named => rfl
  | cTime named stamped unchanged answered => exact (other rfl).elim
  | write named => rfl
  | condition last => simp [carried, Step.currentFile?, last]

/-- A change-time step has its file for its only argument, and has told the
change time that it has afterwards. -/
theorem Gives.carried_of_cTime
    (gives : Gives host after step.kind step.arguments result)
    (isLookup : step.kind = .cTime) :
    step.arguments = carried step ∧
      forwardedBase result = [result] ∧
      changeTimeOn after (carried step) = .ok result := by
  rcases step with ⟨kind, arguments, mark?⟩
  dsimp only at gives isLookup
  cases gives with
  | @cTime path stamp named stamped unchanged answered =>
    have file : carried ⟨.cTime, [path], mark?⟩ = [path] :=
      carried_of_named rfl named
    rw [file, unchanged]
    exact ⟨rfl, by simp [forwardedBase, stamped], answered⟩
  | _ => cases isLookup

/-- What a step that has given a result hands on, in terms of its file and of
nothing else. -/
theorem Gives.cross_eq
    (gives : Gives host after step.kind step.arguments result)
    (next : ActionKind) :
    let crossing := Run.cross registry step result next after
    crossing.world = after ∧
      crossing.handed =
        if next = .condition then
          match changeTimeOn after (carried step) with
          | .ok stamp => .ok (stamp :: carried step)
          | .error error => .error (.failure error)
        else
          .ok (carried step) := by
  intro crossing
  dsimp only [crossing]
  unfold Run.cross
  -- A change-time step hands on its arguments, and any other its result; its
  -- file is the one as well as the other.
  by_cases isLookup : step.kind = .cTime
  · rcases gives.carried_of_cTime isLookup with ⟨only, base, told⟩
    by_cases isCondition : next = .condition
    · rw [if_pos isLookup, if_pos isCondition, if_pos isCondition, told, base,
        only]
      exact ⟨rfl, rfl⟩
    · rw [if_pos isLookup, if_neg isCondition, if_neg isCondition, only]
      exact ⟨rfl, rfl⟩
  · have base := gives.forwardedBase_eq_carried isLookup
    by_cases isCondition : next = .condition
    · rw [if_neg isLookup, if_pos isCondition, if_pos isCondition, base]
      exact ⟨changeTime_run_snd after (carried step), rfl⟩
    · rw [if_neg isLookup, if_neg isCondition, if_neg isCondition, base]
      exact ⟨rfl, rfl⟩

end BuiltIn

/-! ## A file that has just been created -/

/-- The host with a file that has just been created at a place. -/
def Host.withFile (host : Host) (place : Location) : Host :=
  host.advance (host.files.insert place (.file .empty host.second))

namespace BuiltIn

theorem ask_create_of_create
    {host : Host}
    {path : String}
    {files : FileTree}
    (created : host.files.create host.second path = .ok files) :
    ((registry : Registry (StateM Host)).ask .create [path]).run host =
      (some (.ok path), host.advance files) := by
  rcases create_run_of_create created with ⟨log, run⟩
  exact Registry.ask_run_of_find? rfl run

section

variable
    {host : Host}
    {path : String}
    {directory : Location}
    {name : String}
    (vacant : host.files.Vacant path directory name)
    {stamp : String}
    (stamped :
      FileStatus.stamp? {
        isDirectory := false
        changed := host.second
        offset := host.zone host.second } = some stamp)

include vacant

theorem ask_create_of_vacant :
    ((registry : Registry (StateM Host)).ask .create [path]).run host =
      (some (.ok path), host.withFile (name :: directory)) :=
  ask_create_of_create (vacant.create_eq host.second)

include stamped

/-- Of a file that has just been created the time of its creation is told. -/
theorem changeTimeOn_withFile :
    changeTimeOn (host.withFile (name :: directory)) [path] = .ok stamp := by
  rw [changeTimeOn_eq_ok_iff, Host.changeStamp?, Host.fileStatus?,
    Host.withFile, Host.files_advance, vacant.status_insert]
  exact stamped

variable
    {next : Step}
    (isCondition : next.kind = .condition)

include isCondition

/-- Behind the creation of a file a change time is looked up for a condition. -/
theorem cross_create :
    let current : Step := { kind := .create, arguments := [path] }
    let after := host.withFile (name :: directory)
    Run.cross registry current path next.kind after = {
      lookup? :=
        some { kind := .cTime, arguments := [path], reply := .ok stamp }
      handed := .ok [stamp, path]
      world := after } := by
  intro current after
  have base : forwardedBase path = [path] := by
    simp [forwardedBase, vacant.path_ne_empty]
  have found :
      (registry : Registry (StateM Host)).find? .cTime = some changeTime :=
    rfl
  have told :
      ((changeTime [path] : StateM Host _).run after).1.value = .ok stamp :=
    changeTimeOn_withFile vacant stamped
  simp only [current, Run.cross, reduceCtorEq, if_false, isCondition, if_true,
    found, base, told, changeTime_run_snd]

/-- Behind the creation of a file a run comes to a condition. -/
theorem reaches_of_create (rest : List Step) :
    Stage.Reaches registry
      { current := { kind := .create, arguments := [path] }
        rest := next :: rest
        world := host } 1
      { current := next.deliver [stamp, path]
        rest
        world := host.withFile (name :: directory) } := by
  have crossed := cross_create vacant stamped isCondition
  let start : Stage Host := {
    current := { kind := .create, arguments := [path] }
    rest := next :: rest
    world := host }
  have answered :
      (registry.ask start.current.kind start.current.arguments).run
        start.world = (some (.ok path), host.withFile (name :: directory)) :=
    ask_create_of_vacant vacant
  have handed :
      (Run.cross registry start.current path next.kind
        (host.withFile (name :: directory))).handed = .ok [stamp, path] := by
    rw [crossed]
  have reaches : Stage.Reaches registry start 1 _ :=
    .step rfl answered handed .here
  rw [crossed] at reaches
  exact reaches

/-- What comes of a run that is over with a condition behind the creation of a
file. -/
theorem record_of_create
    {answer : ActionResult}
    (compared :
      conditionResult (next.deliver [stamp, path]).arguments = answer) :
    let current : Step := { kind := .create, arguments := [path] }
    let document : Document := { steps := [current, next] }
    let turns : List Turn := [
      { step := current
        reply? := some (.ok path)
        lookup? := some (.ok stamp) },
      { step := next.deliver [stamp, path]
        reply? := some answer }]
    Engine.record registry document host = Run.tell 0 turns document.steps ∧
      ((Run.steps registry document.steps : StateM Host _).run host).2 =
        host.withFile (name :: directory) := by
  intro current document turns
  have asked :
      ((registry : Registry (StateM Host)).ask
        (next.deliver [stamp, path]).kind
        (next.deliver [stamp, path]).arguments).run
          (host.withFile (name :: directory)) =
        (some answer, host.withFile (name :: directory)) := by
    rw [Step.deliver_kind, isCondition, ← compared]
    rfl
  have course :
      (Run.course registry [] document.steps).run host =
        (turns, host.withFile (name :: directory)) := by
    rw [Run.course_run_cross, Step.deliver_nil, ask_create_of_vacant vacant]
    dsimp only
    rw [cross_create vacant stamped isCondition]
    dsimp only
    rw [Run.course_run_singleton, asked]
    rfl
  rw [Engine.record, (Run.steps_run registry document.steps host).2, course]
  exact ⟨rfl, rfl⟩

end

end BuiltIn

/-! ## From step to step -/

/-- The turn behind a position is that of the step, with these arguments handed
on to it. -/
def Run.HandsOn
    (turns : List Turn)
    (position : Nat)
    (next : Step)
    (forwarded : List String) : Prop :=
  turns[position + 1]?.map Turn.step = some (next.deliver forwarded)

/-- A step, called at a position of a run, has given a result and has left the
host as it is given.  What comes of the step behind it depends on its current
file; the run fails if a condition asks for a change time in vain. -/
structure Run.ThreadsFile
    (turns : List Turn)
    (position : Nat)
    (current next : Step)
    (result : String)
    (after : Host)
    (fails : ActionError → Prop) : Prop where
  /-- Every step but a removal has a file, and only that of a condition may
  lack a name. -/
  file :
    current.kind ≠ .remove →
      ∃ file,
        current.currentFile? = some file ∧
          (file = "" → current.kind = .condition)
  carried :
    ∀ file, current.currentFile? = some file → file ≠ "" →
      next.kind ≠ .condition → HandsOn turns position next [file]
  stamped :
    ∀ file stamp, current.currentFile? = some file → file ≠ "" →
      next.kind = .condition →
        BuiltIn.changeTimeOn after [file] = .ok stamp →
          HandsOn turns position next [stamp, file]
  /-- A change-time step has just told the change time. -/
  known :
    current.kind = .cTime → ∀ file, current.currentFile? = some file →
      BuiltIn.changeTimeOn after [file] = .ok result
  unstamped :
    ∀ file error, current.currentFile? = some file → file ≠ "" →
      next.kind = .condition →
        BuiltIn.changeTimeOn after [file] = .error error → fails error
  dropped :
    current.kind = .remove ∨ current.currentFile? = some "" →
      next.kind ≠ .condition → HandsOn turns position next []
  barred :
    current.kind = .remove ∨ current.currentFile? = some "" →
      next.kind = .condition → fails (.arity .cTime (.exactly 1) 0)
  /-- A step that takes one number of arguments counts what is handed on. -/
  counted :
    ∀ forwarded count, HandsOn turns position next forwarded →
      BuiltIn.fixedCount? next.kind = some count →
        let given := forwarded.length + next.arguments.length
        turns[position + 1]?.map Turn.reply? =
            some (some (.error (.arity next.kind (.exactly count) given))) ↔
          given ≠ count

namespace BuiltIn

/-- A step that takes one number of arguments is refused exactly if it has
another with what is handed on to it. -/
theorem reply?_eq_arity_iff
    {start : Stage Host}
    {position : Nat}
    {next : Step}
    {forwarded : List String}
    (handed : Run.HandsOn (start.told registry) position next forwarded)
    {count : Nat}
    (fixed : fixedCount? next.kind = some count) :
    let given := forwarded.length + next.arguments.length
    (start.told registry)[position + 1]?.map Turn.reply? =
        some (some (.error (.arity next.kind (.exactly count) given))) ↔
      given ≠ count := by
  intro given
  rcases Option.map_eq_some_iff.mp handed with ⟨turn, here, called⟩
  rcases Stage.exists_reaches_of_getElem?_told here with
    ⟨reached, -, first⟩
  rcases Stage.head?_told registry reached with ⟨lookup?, head⟩
  rw [head, Option.some_inj] at first
  rw [here, Option.map_some, Option.some_inj, ← first]
  rw [← first] at called
  dsimp only at called ⊢
  have length : (next.deliver forwarded).arguments.length = given := by
    rw [Step.deliver_arguments, if_neg, List.length_append]
    intro isCondition
    rw [isCondition] at fixed
    cases fixed
  rw [called, ← length, ← ask_eq_arity_iff fixed _ reached.world,
    Step.deliver_kind]

/-- A stage at which a built-in action gives a result threads the file of its
step. -/
theorem threadsFile_of_reaches
    {start stage : Stage Host}
    {position : Nat}
    {next : Step}
    {rest : List Step}
    {result : String}
    {after : Host}
    {fails : ActionError → Prop}
    (reaches : Stage.Reaches registry start position stage)
    (following : stage.rest = next :: rest)
    (answered :
      (registry.ask stage.current.kind stage.current.arguments).run
        stage.world = (some (.ok result), after))
    (failing :
      ∀ error,
        (Run.cross registry stage.current result next.kind after).handed =
            .error (.failure error) →
          fails error) :
    Run.ThreadsFile (start.told registry) position stage.current next result
      after fails := by
  have gives := gives_of_ask answered
  rcases gives.cross_eq next.kind with ⟨unchanged, crossed⟩
  have handsOn
      {forwarded : List String}
      (handed :
        (Run.cross registry stage.current result next.kind after).handed =
          .ok forwarded) :
      Run.HandsOn (start.told registry) position next forwarded := by
    rcases reaches.getElem?_told_ahead following answered handed with
      ⟨lookup?, told⟩
    rw [Run.HandsOn, told]
    rfl
  exact {
    file := gives.exists_currentFile
    carried := by
      intro file current named other
      rw [if_neg other, carried_of_named current named] at crossed
      exact handsOn crossed
    stamped := by
      intro file stamp current named isCondition found
      rw [if_pos isCondition, carried_of_named current named, found] at crossed
      exact handsOn crossed
    known := by
      intro isLookup file current
      rcases gives.exists_currentFile (by simp [isLookup]) with
        ⟨own, same, unnamed⟩
      cases current.symm.trans same
      have named : file ≠ "" := by
        intro empty
        have isCondition := unnamed empty
        rw [isLookup] at isCondition
        cases isCondition
      rw [← carried_of_named current named]
      exact (gives.carried_of_cTime isLookup).2.2
    unstamped := by
      intro file error current named isCondition refused
      rw [if_pos isCondition, carried_of_named current named,
        refused] at crossed
      exact failing error crossed
    dropped := by
      intro unnamed other
      rw [if_neg other, carried_of_unnamed unnamed] at crossed
      exact handsOn crossed
    barred := by
      intro unnamed isCondition
      rw [if_pos isCondition, carried_of_unnamed unnamed] at crossed
      exact failing _ crossed
    counted := by
      intro forwarded count handed fixed
      exact reply?_eq_arity_iff handed fixed }

end BuiltIn

namespace Engine

/-- The first run of a document with the built-in actions, whatever its sink
does, threads the current file from step to step. -/
theorem run_fresh_threads_file
    (sink : Sink (StateM Host))
    (document : Document)
    (host : Host) :
    let registry : Registry (StateM Host) := BuiltIn.registry
    let run := ((run registry sink { document }).run host).1
    let left := ((Run.steps registry document.steps).run host).2
    let answer := ((sink run.engine.document).run left).1.value
    let journal :=
      ((Engine.run registry.journaled sink.journaled { document }).run
        { world := host }).2
    ∃ turns,
      turns.length = run.reached ∧
        run.engine.document.steps.map Step.kind =
          document.steps.map Step.kind ∧
        Run.CallsInOrder registry run.engine.document.steps turns
          journal.calls ∧
        ∀ (position : Nat) (turn : Turn) (next : Step) (result : String),
          turns[position]? = some turn →
          turn.reply? = some (.ok result) →
          document.steps[position + 1]? = some next →
            ∃ first rest stage after,
              document.steps = first :: rest ∧
                Stage.Reaches registry { current := first, rest, world := host }
                  position stage ∧
                stage.current = turn.step ∧
                (registry.ask turn.step.kind turn.step.arguments).run
                  stage.world = (some (.ok result), after) ∧
                Run.ThreadsFile turns position turn.step next result after
                  fun error =>
                    run.FailsAt answer document position error ∧
                      left = after := by
  intro registry run left answer journal
  have orderly := Run.course_orderly registry [] document.steps host
  have steps : run.engine.document.steps = _ :=
    run_fresh_steps registry sink document host
  refine ⟨_, (run_fresh_reached registry sink document host).symm, ?_, ?_,
    ?_⟩
  · rw [steps]
    exact orderly.map_kind_steps_tell 0
  · rw [steps, run_fresh_calls]
    exact orderly.callsInOrder 0
  · intro position turn next result here replied configured
    have nonempty : document.steps ≠ [] := by
      intro empty
      rw [empty] at configured
      cases configured
    rcases List.exists_cons_of_ne_nil nonempty with ⟨first, rest, whole⟩
    have told :
        ((Run.course registry [] document.steps).run host).1 =
          Stage.told registry { current := first, rest, world := host } := by
      rw [whole]
      rfl
    have leaves :
        left =
          Stage.left registry { current := first, rest, world := host } := by
      dsimp only [left]
      rw [(Run.steps_run registry document.steps host).2, whole]
      rfl
    rw [told] at here ⊢
    rw [whole] at configured
    rcases Stage.exists_reaches_of_answered here replied configured with
      ⟨stage, behind, after, reaches, current, following, answered⟩
    rw [← current]
    refine ⟨first, rest, stage, after, whole, reaches, rfl, answered, ?_⟩
    refine BuiltIn.threadsFile_of_reaches reaches following answered ?_
    intro error barred
    have ending :=
      ending_record_of_barred whole reaches following answered barred
    refine ⟨run_fresh_failsAt registry sink document host ending, ?_⟩
    rw [leaves, reaches.left_eq, Stage.left_barred following answered barred]
    exact ((BuiltIn.gives_of_ask answered).cross_eq next.kind).1

/-- A condition behind a creation is handed the time of the creation, in local
time, and the file. -/
theorem run_fresh_threads_file_created :
    let next : Step :=
      { kind := .condition, arguments := ["1970-01-01 05:00:00"] }
    let document : Document := {
      steps := [{ kind := .create, arguments := ["a.txt"] }, next] }
    let host : Host := {
      files := { entries := [] }
      zone := fun _ => 32400 }
    let run :=
      ((run BuiltIn.registry Sink.accepting { document }).run host).1
    ∃ turns,
      turns.length = run.reached ∧
        Run.HandsOn turns 0 next ["1970-01-01 09:00:00", "a.txt"] := by
  intro next document host run
  have vacant : host.files.Vacant "a.txt" [] "a.txt" :=
    FileTree.vacant_of_name rfl rfl ⟨by decide, by decide, by decide⟩ rfl
  have stamped :
      FileStatus.stamp?
          { isDirectory := false, changed := 0, offset := 32400 } =
        some "1970-01-01 09:00:00" := by
    decide
  have isCondition : next.kind = .condition := rfl
  have ahead := BuiltIn.reaches_of_create vacant stamped isCondition []
  rcases run_fresh_threads_file Sink.accepting document host with
    ⟨turns, length, -, ordered, threads⟩
  -- The condition has its turn, so the creation gave a result.
  have inside : 0 + 1 < turns.length := by
    rw [length, run_fresh_reached]
    exact ahead.lt_length_told
  have here := List.getElem?_eq_getElem (Nat.lt_of_succ_lt inside)
  rcases (ordered.went_on 0 _ here inside).1 with ⟨result, replied⟩
  rcases threads 0 _ next result here replied rfl with
    ⟨first, rest, stage, left, ⟨⟩, reaches, current, asked, threaded⟩
  cases reaches
  rw [← current] at asked threaded
  cases (BuiltIn.ask_create_of_vacant vacant).symm.trans asked
  exact ⟨turns, length, threaded.stamped "a.txt" _ rfl (by decide) rfl
    (BuiltIn.changeTimeOn_withFile vacant stamped)⟩

end Engine

end Scenario
