import Scenario.Proofs.Clock
import Scenario.Proofs.Completion
import Scenario.Proofs.FileTree.Added
import Scenario.Proofs.Overwriting

/-!
# Pipelines on one file

A step that writes, that asks for the change time of what it is handed, or that
compares two configured bounds goes on with the file of the step in front.  A
run that creates a file and has only such steps behind is completed, however
many there are.  It leaves the file with the lines of the last step that writes,
and if a removal comes behind, it leaves the tree as it was.
-/

namespace Scenario

/-- The step goes on with the file that it is handed: it writes, it asks for a
change time, or it is a condition with two bounds that holds. -/
inductive Step.Continues (step : Step) : Prop where
  | write (isWrite : step.kind = .write)
  | cTime
      (isLookup : step.kind = .cTime)
      (unconfigured : step.arguments = [])
  | condition {first second rest lower upper}
      (isCondition : step.kind = .condition)
      (configured : step.arguments = first :: second :: rest)
      (lower_eq : Moment.ofText first = .ok lower)
      (upper_eq : Moment.ofText second = .ok upper)
      (later : upper < lower)

/-! ## Lines -/

/-- The lines that a file has behind a step. -/
def Step.written
    (step : Step)
    (lines : List String) :
    List String :=
  if step.kind = .write then step.arguments else lines

/-- The lines of the last step that writes, or none. -/
def lastWritten (steps : List Step) : List String :=
  ((steps.filter fun step => step.kind = .write).getLast?.map
    Step.arguments).getD []

/-- Behind steps a file has the lines of the last that writes, or those that it
had. -/
theorem foldl_written
    (steps : List Step)
    (lines : List String) :
    steps.foldl (fun lines step => step.written lines) lines =
      ((steps.filter fun step => step.kind = .write).getLast?.map
        Step.arguments).getD lines := by
  induction steps generalizing lines with
  | nil => rfl
  | cons step rest induction =>
    rw [List.foldl_cons, induction, Step.written]
    by_cases isWrite : step.kind = .write
    · rw [if_pos isWrite, List.filter_cons_of_pos (by simpa using isWrite),
        List.getLast?_cons]
      cases (rest.filter fun step => step.kind = .write).getLast? <;> rfl
    · rw [if_neg isWrite, List.filter_cons_of_neg (by simpa using isWrite)]

/-! ## Actions that are done -/

namespace BuiltIn

/-- A condition with two bounds that holds gives the file that it is handed. -/
theorem conditionResult_of_later
    {first second : String}
    {lower upper : Moment}
    (lower_eq : Moment.ofText first = .ok lower)
    (upper_eq : Moment.ofText second = .ok upper)
    (later : upper < lower)
    (rest : List String)
    (stamp file : String) :
    conditionResult (first :: second :: rest ++ [stamp, file]) = .ok file := by
  rw [conditionResult_append, conditionVerdict, momentOf, momentOf, lower_eq,
    upper_eq]
  exact if_pos later

end BuiltIn

/-! ## Hosts that hold the file -/

/-- The host has the file in addition to a tree, with these lines, and the
calendar has its change time and the times of so many more changes. -/
structure Host.Holds
    (tree : FileTree)
    (place : Location)
    (lines : List String)
    (changes : Nat)
    (host : Host) : Prop where
  files :
    ∃ changed,
      Moment.InCalendar changed ∧
        host.files =
          tree.insert place
            (.file (BuiltIn.linesText lines).toUTF8 changed)
  timed : host.Timed changes

namespace BuiltIn

/-- What a step of the given kind is handed from one that has this file. -/
def handedFor
    (path stamp : String)
    (kind : ActionKind) :
    List String :=
  if kind = .condition then [stamp, path] else [path]

section

variable
    {tree : FileTree}
    {path : String}
    {directory : Location}
    {name : String}
    (vacant : tree.Vacant path directory name)
    {lines : List String}
    {changes : Nat}
    {host : Host}

include vacant

/-- The change time of the file can be told. -/
theorem exists_changeTime_of_holds
    (holds : host.Holds tree (name :: directory) lines changes) :
    ∃ stamp, changeTimeOn host [path] = .ok stamp := by
  rcases holds.files with ⟨changed, inCalendar, files⟩
  refine ⟨Moment.textOfSeconds (changed + host.zone changed),
    (changeTimeOn_eq_ok_iff _ _ _).mpr ?_⟩
  rw [Host.changeStamp?, Host.fileStatus?, files, vacant.status_insert]
  exact FileStatus.stamp?_of_inCalendar inCalendar

/-- Lines are written in place of those that the file has. -/
theorem ask_write_of_holds
    (holds : host.Holds tree (name :: directory) lines (changes + 1))
    (written : List String) :
    ∃ after,
      ((registry : Registry (StateM Host)).ask .write
            (path :: written)).run host =
          (some (.ok path), after) ∧
        after.Holds tree (name :: directory) written changes := by
  rcases holds.files with ⟨changed, -, files⟩
  have named : host.files.NamesFile path := by
    rw [files]
    exact ⟨_, vacant.status_insert _ _, nofun⟩
  have replaced :
      host.files.replace host.second path (linesText written) =
        .ok (tree.insert (name :: directory)
          (.file (linesText written).toUTF8 host.second)) := by
    rw [files]
    exact vacant.replace_insert _ _ _ _
  rcases write_run_of_replace named replaced with ⟨log, run⟩
  refine ⟨_, Registry.ask_run_of_find? rfl run, ?_⟩
  exact {
    files := ⟨host.second, holds.timed.second, rfl⟩
    timed := holds.timed.later _ }

/-- To remove the file leaves the tree without it. -/
theorem ask_remove_of_holds
    (holds : host.Holds tree (name :: directory) lines changes) :
    ∃ after,
      ((registry : Registry (StateM Host)).ask .remove [path]).run host =
          (some (.ok ""), after) ∧
        after.files = tree := by
  rcases holds.files with ⟨changed, -, files⟩
  have removed : host.files.remove path = .ok tree := by
    rw [files]
    exact vacant.remove_insert _ _
  rcases remove_run_of_remove removed with ⟨log, run⟩
  exact ⟨_, Registry.ask_run_of_find? rfl run, rfl⟩

/-- A step that goes on with the file gives a result if it is handed the
file. -/
theorem exists_ask_of_continues
    {step : Step}
    (continues : step.Continues)
    (holds : host.Holds tree (name :: directory) lines (changes + 1))
    (stamp : String) :
    let called := step.deliver (handedFor path stamp step.kind)
    ∃ result after,
      ((registry : Registry (StateM Host)).ask called.kind
            called.arguments).run host =
          (some (.ok result), after) ∧
        carried called = [path] ∧
        after.Holds tree (name :: directory) (step.written lines) changes := by
  intro called
  have named := vacant.path_ne_empty
  have fewer : host.Holds tree (name :: directory) lines changes :=
    { holds with timed := holds.timed.mono (Nat.le_succ changes) }
  have kind : called.kind = step.kind := Step.deliver_kind _ _
  cases continues with
  | write isWrite =>
    have arguments : called.arguments = path :: step.arguments := by
      rw [Step.deliver_arguments, handedFor, isWrite]
      rfl
    rcases ask_write_of_holds vacant holds step.arguments with
      ⟨after, answered, held⟩
    refine ⟨path, after, ?_, ?_, ?_⟩
    · rw [kind, isWrite, arguments, answered]
    · apply carried_of_named _ named
      rw [Step.currentFile?, kind, isWrite, arguments]
      rfl
    · rw [Step.written, if_pos isWrite]
      exact held
  | cTime isLookup unconfigured =>
    have arguments : called.arguments = [path] := by
      rw [Step.deliver_arguments_of_unconfigured unconfigured, handedFor,
        isLookup]
      rfl
    rcases exists_changeTime_of_holds vacant holds with ⟨answer, told⟩
    refine ⟨answer, host, ?_, ?_, ?_⟩
    · rw [kind, isLookup, arguments]
      exact Prod.ext (congrArg some told) (changeTime_run_snd host [path])
    · apply carried_of_named _ named
      rw [Step.currentFile?, kind, isLookup, arguments]
      rfl
    · rw [Step.written, isLookup]
      exact fewer
  | condition isCondition configured lower_eq upper_eq later =>
    have arguments :
        called.arguments = step.arguments ++ [stamp, path] := by
      rw [Step.deliver_arguments, handedFor, if_pos isCondition,
        if_pos isCondition]
    refine ⟨path, host, ?_, ?_, ?_⟩
    · rw [kind, isCondition, arguments, configured]
      exact congrArg (fun answer => (some answer, host))
        (conditionResult_of_later lower_eq upper_eq later _ stamp path)
    · apply carried_of_named _ named
      rw [Step.currentFile?, kind, isCondition, arguments]
      exact List.getLast?_append ..
    · rw [Step.written, isCondition]
      exact fewer

end

end BuiltIn

/-! ## Stages that hand on the file -/

/-- The step at a stage gives a result, its file has this path, and the host
then has the file in addition to a tree. -/
structure Stage.Carries
    (tree : FileTree)
    (path : String)
    (place : Location)
    (lines : List String)
    (changes : Nat)
    (stage : Stage Host) : Prop where
  answered :
    ∃ result after,
      ((BuiltIn.registry : Registry (StateM Host)).ask stage.current.kind
            stage.current.arguments).run stage.world =
          (some (.ok result), after) ∧
        after.Holds tree place lines changes
  carried_eq : BuiltIn.carried stage.current = [path]

namespace BuiltIn

section

variable
    {tree : FileTree}
    {path : String}
    {directory : Location}
    {name : String}
    (vacant : tree.Vacant path directory name)
    {lines : List String}
    {changes : Nat}
    {stage : Stage Host}

include vacant

/-- The run goes on from a stage that carries the file, and hands the file
on. -/
theorem exists_handed_of_carries
    (carries : stage.Carries tree path (name :: directory) lines changes)
    (next : ActionKind) :
    ∃ result after stamp,
      ((registry : Registry (StateM Host)).ask stage.current.kind
            stage.current.arguments).run stage.world =
          (some (.ok result), after) ∧
        after.Holds tree (name :: directory) lines changes ∧
        let crossing := Run.cross registry stage.current result next after
        crossing.world = after ∧
          crossing.handed = .ok (handedFor path stamp next) := by
  rcases carries.answered with ⟨result, after, answered, holds⟩
  rcases exists_changeTime_of_holds vacant holds with ⟨stamp, told⟩
  rcases (gives_of_ask answered).cross_eq next with ⟨unchanged, handed⟩
  rw [carries.carried_eq, told] at handed
  refine ⟨result, after, stamp, answered, holds, unchanged, ?_⟩
  rw [handed, handedFor]
  split <;> rfl

/-- Behind a stage that carries the file, a step that goes on with it carries
it too. -/
theorem exists_ahead_of_carries
    {next : Step}
    {rest : List Step}
    (carries :
      stage.Carries tree path (name :: directory) lines (changes + 1))
    (following : stage.rest = next :: rest)
    (continues : next.Continues) :
    ∃ ahead,
      Stage.Reaches registry stage 1 ahead ∧
        ahead.rest = rest ∧
        ahead.Carries tree path (name :: directory) (next.written lines)
          changes := by
  rcases exists_handed_of_carries vacant carries next.kind with
    ⟨result, after, stamp, answered, holds, unchanged, handed⟩
  refine ⟨_, .step following answered handed .here, rfl, ?_⟩
  rw [unchanged]
  rcases exists_ask_of_continues vacant continues holds stamp with
    ⟨result, after, answered, carried_eq, held⟩
  exact ⟨⟨result, after, answered, held⟩, carried_eq⟩

/-- A run comes from a stage that carries the file to one behind all steps that
go on with it. -/
theorem exists_reaches_of_carries
    {front back : List Step}
    (continues : ∀ step ∈ front, step.Continues)
    (following : stage.rest = front ++ back)
    (carries :
      stage.Carries tree path (name :: directory) lines
        (changes + front.length)) :
    ∃ reached,
      Stage.Reaches registry stage front.length reached ∧
        reached.rest = back ∧
        reached.Carries tree path (name :: directory)
          (front.foldl (fun lines step => step.written lines) lines)
          changes := by
  induction front generalizing stage lines with
  | nil => exact ⟨stage, .here, following, carries⟩
  | cons step front induction =>
    rcases
        exists_ahead_of_carries vacant carries following
          (continues step (.head _)) with
      ⟨ahead, reaches, behind, carried⟩
    rcases
        induction (fun other member => continues other (.tail _ member))
          behind carried with
      ⟨reached, further, rest, last⟩
    refine ⟨reached, ?_, rest, last⟩
    rw [List.length_cons, Nat.add_comm]
    exact reaches.trans further

/-- The run of a pipeline comes to its end, and leaves the file with the lines
that were written last. -/
theorem exists_end_of_carries
    {list : List Step}
    (continues : ∀ step ∈ list, step.Continues)
    (following : stage.rest = list)
    (carries :
      stage.Carries tree path (name :: directory) [] list.length) :
    ∃ reached result after,
      Stage.Reaches registry stage list.length reached ∧
        reached.rest = [] ∧
        ((registry : Registry (StateM Host)).ask reached.current.kind
              reached.current.arguments).run reached.world =
            (some (.ok result), after) ∧
        tree.Added after.files path (lineBytes (lastWritten list))
          (name :: directory) := by
  rw [← List.append_nil list] at following
  rw [← Nat.zero_add list.length] at carries
  rcases exists_reaches_of_carries vacant continues following carries with
    ⟨reached, reaches, rest, last⟩
  rcases last.answered with ⟨result, after, answered, holds⟩
  rcases holds.files with ⟨changed, -, files⟩
  refine ⟨reached, result, after, reaches, rest, answered, ?_⟩
  rw [files, foldl_written, ← linesText_bytes]
  exact vacant.added _ _

/-- With a removal at its end, the run of a pipeline leaves the tree without
the file. -/
theorem exists_end_of_carries_of_removal
    {list : List Step}
    {removal : Step}
    (continues : ∀ step ∈ list, step.Continues)
    (isRemoval : removal.kind = .remove)
    (unconfigured : removal.arguments = [])
    (following : stage.rest = list ++ [removal])
    (carries :
      stage.Carries tree path (name :: directory) [] list.length) :
    ∃ reached result after,
      Stage.Reaches registry stage (list.length + 1) reached ∧
        reached.rest = [] ∧
        ((registry : Registry (StateM Host)).ask reached.current.kind
              reached.current.arguments).run reached.world =
            (some (.ok result), after) ∧
        after.files = tree := by
  rw [← Nat.zero_add list.length] at carries
  rcases exists_reaches_of_carries vacant continues following carries with
    ⟨reached, reaches, rest, last⟩
  rcases exists_handed_of_carries vacant last removal.kind with
    ⟨result, after, moment, answered, holds, unchanged, handed⟩
  rcases ask_remove_of_holds vacant holds with ⟨left, removed, files⟩
  refine ⟨_, "", left,
    reaches.trans (.step rest answered handed .here), rfl, ?_, files⟩
  have arguments :
      (removal.deliver (handedFor path moment removal.kind)).arguments =
        [path] := by
    rw [Step.deliver_arguments_of_unconfigured unconfigured, handedFor,
      isRemoval]
    rfl
  dsimp only [Stage.ahead]
  rw [unchanged, Step.deliver_kind, arguments, isRemoval, removed]

end

/-- A step that creates a file carries it. -/
theorem carries_of_create
    {host : Host}
    {path : String}
    {directory : Location}
    {name : String}
    (vacant : host.files.Vacant path directory name)
    (created :
      host.files.create host.second path =
        .ok (host.files.insert (name :: directory)
          (.file .empty host.second)))
    {changes : Nat}
    (timed : host.Timed (changes + 1))
    (rest : List Step) :
    Stage.Carries host.files path (name :: directory) [] changes {
      current := { kind := .create, arguments := [path] }
      rest
      world := host } where
  answered := by
    refine ⟨path, _, ask_create_of_create created, ?_⟩
    exact {
      files := ⟨host.second, timed.second, rfl⟩
      timed := timed.later _ }
  carried_eq := carried_of_named rfl vacant.path_ne_empty

end BuiltIn

namespace Engine

/-- A run that creates a file where there was none, and has only steps behind
that go on with it, is completed, and adds the file with the lines of the last
step that writes.  With a removal at its end it is completed as well, and
changes nothing.  The sink comes in behind all this. -/
theorem run_fresh_pipeline
    (sink : Sink (StateM Host))
    (host : Host)
    (path : String)
    (lacks : host.files.LacksEntry path)
    (created :
      ((BuiltIn.create [path] : StateM Host _).run host).1.value = .ok path)
    (list : List Step)
    (continues : ∀ step ∈ list, step.Continues)
    (timed : host.Timed (list.length + 1)) :
    let registry : Registry (StateM Host) := BuiltIn.registry
    let create : Step := { kind := .create, arguments := [path] }
    let remove : Step := { kind := .remove }
    let left (steps : List Step) := ((Run.steps registry steps).run host).2
    let run (steps : List Step) :=
      (Engine.run registry sink { document := { steps } }).run host
    let kept (steps : List Step) :=
      (sink (run steps).1.engine.document).run (left steps)
    let adding := create :: list
    let removing := create :: list ++ [remove]
    EngineRun.Completes (run adding) (kept adding) adding.length ∧
      (∃ place,
        host.files.Added (left adding).files path
          (lineBytes (lastWritten list)) place) ∧
      EngineRun.Completes (run removing) (kept removing) removing.length ∧
      (left removing).files = host.files := by
  intro registry create remove left run kept adding removing
  have created := (BuiltIn.exists_create_of_create created).2
  rcases FileTree.exists_vacant_of_create lacks created with
    ⟨directory, name, vacant, after_eq⟩
  rw [after_eq] at created
  rcases
      BuiltIn.exists_end_of_carries vacant continues rfl
        (BuiltIn.carries_of_create vacant created timed list) with
    ⟨reached, result, after, reaches, last, answered, added⟩
  rcases run_fresh_completes_of_reaches reaches last answered sink with
    ⟨leaves, completes⟩
  rcases
      BuiltIn.exists_end_of_carries_of_removal vacant continues rfl rfl rfl
        (BuiltIn.carries_of_create vacant created timed
          (list ++ [remove])) with
    ⟨reached', result', after', reaches', last', answered', same⟩
  rcases run_fresh_completes_of_reaches reaches' last' answered' sink with
    ⟨leaves', completes'⟩
  rw [← leaves] at completes added
  rw [← leaves'] at completes' same
  exact ⟨completes, ⟨_, added⟩, completes', same⟩

/-- On an empty tree a pipeline compares two bounds between two writings, and
leaves what the latter has written. -/
theorem run_fresh_pipeline_rewritten :
    let host : Host := { files := { entries := [] } }
    let list : List Step := [
      { kind := .write, arguments := ["a long line", "and another"] },
      { kind := .condition
        arguments := ["2024-01-02 00:00:00", "2024-01-01 00:00:00"] },
      { kind := .cTime },
      { kind := .write, arguments := ["short"] }]
    let steps : List Step :=
      { kind := .create, arguments := ["a.txt"] } :: list
    let left :=
      ((Run.steps BuiltIn.registry steps : StateM Host _).run host).2
    host.files.LacksEntry "a.txt" ∧
      (∀ step ∈ list, step.Continues) ∧
      host.Timed (list.length + 1) ∧
      ∃ place,
        host.files.Added left.files "a.txt" (lineBytes ["short"]) place := by
  intro host list steps left
  have vacant : host.files.Vacant "a.txt" [] "a.txt" :=
    FileTree.vacant_of_name rfl rfl ⟨by decide, by decide, by decide⟩ rfl
  have lacks := vacant.lacksEntry
  have created :
      ((BuiltIn.create ["a.txt"] : StateM Host _).run host).1.value =
        .ok "a.txt" := by
    rcases BuiltIn.create_run_of_create (vacant.create_eq host.second) with
      ⟨log, run⟩
    exact congrArg (fun ran => ran.1.value) run
  have continues : ∀ step ∈ list, step.Continues := by
    intro step member
    simp only [list, List.mem_cons, List.not_mem_nil, or_false] at member
    rcases member with rfl | rfl | rfl | rfl
    · exact .write rfl
    · exact .condition rfl rfl rfl rfl (by decide)
    · exact .cTime rfl rfl
    · exact .write rfl
  have timed : host.Timed (list.length + 1) := by decide
  exact ⟨lacks, continues, timed,
    (run_fresh_pipeline Sink.accepting host "a.txt" lacks created list
      continues timed).2.1⟩

end Engine

end Scenario
