import Scenario.BuiltIn.Registry
import Scenario.Host
import Scenario.Proofs.Course
import Scenario.Proofs.Failure

/-!
# What the built-in actions give

The result of a built-in action is the file that the next step should work on:
the path, the new path, nothing, or the last of the arguments.  A change time
is a result as well, and names no file.  An action gives a result only for a
number of arguments that it takes; and since the empty text names no file, only
a condition can have it as its file.
-/

namespace Scenario

/-! ## Files without a name -/

@[simp]
theorem Path.check_empty : check "" = .error (.os .noSuchFile) := by
  simp [check]

namespace FileTree

theorem create_empty (tree : FileTree) (time : Int) :
    tree.create time "" = .error (.os .noSuchFile) := by
  rw [create, Path.check_empty]
  rfl

theorem status_empty (tree : FileTree) :
    tree.status "" = .error (.os .noSuchFile) := by
  rw [status, Path.check_empty]
  rfl

/-- Nothing can be given the empty text for a path. -/
theorem rename_empty_ne_ok
    (tree : FileTree)
    (time : Int)
    (path : String)
    (files : FileTree) :
    tree.rename time path "" ≠ .ok files := by
  intro renamed
  unfold rename at renamed
  split at renamed
  · cases renamed
  · simp only [Path.check_empty, bind, Except.bind] at renamed
    split at renamed
    · cases renamed
    · split at renamed <;> cases renamed

end FileTree

namespace Host

/-- A change that is made is one of the tree. -/
theorem exists_files_of_change
    {operation : FileTree → Int → Except IoError FileTree}
    {host : Host}
    (changed : ((change operation).run host).1 = .ok ()) :
    ∃ files, operation host.files host.second = .ok files := by
  cases outcome : operation host.files host.second with
  | error error =>
    have failed : (change operation).run host = (.error error, host) :=
      change_snd_of_error outcome
    rw [failed] at changed
    cases changed
  | ok files => exact ⟨files, rfl⟩

theorem change_of_ok
    {operation : FileTree → Int → Except IoError FileTree}
    {host : Host}
    {files : FileTree}
    (done : operation host.files host.second = .ok files) :
    change operation host = (.ok (), host.advance files) := by
  rw [change, done]

/-- A change that is made leaves the tree that its operation gives. -/
theorem files_of_change
    {operation : FileTree → Int → Except IoError FileTree}
    {host : Host}
    (changed : ((change operation).run host).1 = .ok ()) :
    operation host.files host.second =
      .ok ((change operation).run host).2.files := by
  rcases exists_files_of_change changed with ⟨files, done⟩
  have left : (change operation).run host = (.ok (), host.advance files) :=
    change_of_ok done
  rw [left]
  exact done

/-- The status of the file that a path names, if it names one. -/
def fileStatus? (host : Host) (path : String) : Option FileStatus :=
  match (host.files.status path).map host.statusOf with
  | .error _ => none
  | .ok status => if status.isDirectory then none else some status

theorem file?_run (host : Host) (path : String) :
    (FileAccess.file? path : StateM Host _).run host =
      (host.fileStatus? path, host) := by
  have asked :
      (FileAccess.status path : StateM Host _).run host =
        ((host.files.status path).map host.statusOf, host) :=
    rfl
  unfold FileAccess.file? fileStatus?
  rw [run_bind_world, asked]
  rcases (host.files.status path).map host.statusOf with error | status
  · rfl
  · dsimp only
    split <;> rfl

theorem fileStatus?_empty (host : Host) : host.fileStatus? "" = none := by
  rw [fileStatus?, FileTree.status_empty]
  rfl

end Host

namespace BuiltIn

/-! ## What an action does -/

/-- An action that is given too few or too many arguments does nothing. -/
theorem taking_run_of_not_fits
    {arity : Arity}
    (kind : ActionKind)
    (perform :
      (arguments : List String) →
        arity.Fits arguments.length → StateM Host (Logged ActionResult))
    {arguments : List String}
    (misfit : ¬ arity.Fits arguments.length)
    (host : Host) :
    (taking arity kind perform arguments).run host =
      ({ value := .error (.arity kind arity arguments.length) }, host) := by
  rw [taking, Arity.checking_of_not_fits kind _ perform misfit]
  rfl

section

variable
    (path newPath : String)
    (host : Host)

theorem create_run :
    (create [path] : StateM Host _).run host =
      let done :=
        (Host.change fun tree time => tree.create time path).run host
      (reply .create path path [event s!"created {path}"] done.1, done.2) :=
  rfl

theorem remove_run :
    (remove [path] : StateM Host _).run host =
      let done := (Host.change fun tree _ => tree.remove path).run host
      (reply .remove path "" [] done.1, done.2) :=
  rfl

theorem rename_run :
    (rename [path, newPath] : StateM Host _).run host =
      let done :=
        (Host.change fun tree time => tree.rename time path newPath).run host
      (reply .rename path newPath [] done.1, done.2) :=
  rfl

/-- Asking for a change time changes nothing. -/
theorem changeTime_run :
    (changeTime [path] : StateM Host _).run host =
      match host.fileStatus? path with
      | none => ({ value := .error (.notFound .cTime path) }, host)
      | some status =>
        match status.stamp? with
        | none =>
          ({ value := .error (.io .cTime path .changeTimeOutOfRange) }, host)
        | some stamp => ({ value := .ok stamp }, host) := by
  have fits : (Arity.exactly 1).Fits [path].length := rfl
  rw [changeTime, taking, Arity.checking_of_fits _ _ _ fits, run_bind_world,
    Host.file?_run]
  rcases host.fileStatus? path with _ | status
  · rfl
  · dsimp only
    cases status.stamp? <;> rfl

theorem write_run (lines : List String) :
    (write (path :: lines) : StateM Host _).run host =
      match host.fileStatus? path with
      | none => ({ value := .error (.notFound .write path) }, host)
      | some _ =>
        let text := linesText lines
        let done :=
          (Host.change fun tree time => tree.replace time path text).run host
        (reply .write path path
          [event s!"wrote {text.utf8ByteSize} bytes to {path}"] done.1,
          done.2) := by
  have fits : (Arity.atLeast 1).Fits (path :: lines).length :=
    Nat.succ_pos lines.length
  rw [write, taking, Arity.checking_of_fits _ _ _ fits, run_bind_world,
    Host.file?_run]
  cases host.fileStatus? path <;> rfl

end

section

variable
    {host : Host}
    {path : String}
    {files : FileTree}

theorem create_run_of_create
    (created : host.files.create host.second path = .ok files) :
    ∃ log,
      (create [path] : StateM Host _).run host =
        ({ value := .ok path, log }, host.advance files) := by
  have done :
      (Host.change fun tree time => tree.create time path).run host =
        (.ok (), host.advance files) :=
    Host.change_of_ok created
  rw [create_run, done]
  exact ⟨_, rfl⟩

theorem remove_run_of_remove
    (removed : host.files.remove path = .ok files) :
    ∃ log,
      (remove [path] : StateM Host _).run host =
        ({ value := .ok "", log }, host.advance files) := by
  have done :
      (Host.change fun tree _ => tree.remove path).run host =
        (.ok (), host.advance files) :=
    Host.change_of_ok removed
  rw [remove_run, done]
  exact ⟨_, rfl⟩

end

/-- The number of arguments that the action of a kind takes, if it takes one
number only. -/
def fixedCount? : ActionKind → Option Nat
  | .create => some 1
  | .remove => some 1
  | .cTime => some 1
  | .rename => some 2
  | _ => none

/-- An action that takes one number of arguments does nothing when it is given
another one. -/
theorem run_of_length_ne
    (kind : ActionKind)
    {count : Nat}
    {action : Action (StateM Host)}
    (fixed : fixedCount? kind = some count)
    (found : action? kind = some action)
    {arguments : List String}
    (other : arguments.length ≠ count)
    (host : Host) :
    (action arguments).run host =
      ({ value := .error (.arity kind (.exactly count) arguments.length) },
        host) := by
  have misfit : ¬ (Arity.exactly count).Fits arguments.length := other
  cases kind with
  | create | remove | cTime | rename =>
    cases fixed
    cases found
    exact taking_run_of_not_fits _ _ misfit host
  | write | condition | unknown => cases fixed

/-- A condition compares its first two arguments, and gives its last one. -/
theorem conditionResult_cons
    (first second third : String)
    (rest : List String) :
    conditionResult (first :: second :: third :: rest) = (do
      let lower ← momentOf first
      let upper ← momentOf second
      if upper < lower then
        return (third :: rest).getLast (List.cons_ne_nil third rest)
      else
        throw .falseCondition) :=
  rfl

theorem conditionResult_cases (arguments : List String) :
    (∃ first second third rest,
      arguments = first :: second :: third :: rest) ∨
      conditionResult arguments =
        .error (.arity .condition (.atLeast 3) arguments.length) := by
  by_cases fits : (Arity.atLeast 3).Fits arguments.length
  · match arguments, fits with
    | first :: second :: third :: rest, _ =>
      exact .inl ⟨first, second, third, rest, rfl⟩
  · exact .inr (Arity.checking_of_not_fits _ _ _ fits)

/-! ## Results -/

/-- The built-in action of a kind, called on a list of arguments, may give this
result, and leave the second host in place of the first. -/
inductive Gives (host after : Host) :
    ActionKind → List String → String → Prop where
  | create {path}
      (named : path ≠ "") :
    Gives host after .create [path] path
  | remove {path} : Gives host after .remove [path] ""
  | rename {path newPath}
      (named : newPath ≠ "") :
    Gives host after .rename [path, newPath] newPath
  /-- Asking for a change time changes nothing, so it may be asked again. -/
  | cTime {path stamp}
      (named : path ≠ "")
      (stamped : stamp ≠ "")
      (unchanged : after = host)
      (answered :
        ((changeTime [path] : StateM Host _).run host).1.value = .ok stamp) :
    Gives host after .cTime [path] stamp
  | write {path lines}
      (named : path ≠ "") :
    Gives host after .write (path :: lines) path
  | condition {arguments result}
      (last : arguments.getLast? = some result) :
    Gives host after .condition arguments result

theorem reply_value_eq_ok_iff
    (kind : ActionKind)
    (path result : String)
    (log : List LogEvent)
    (outcome : Except IoError Unit)
    (given : String) :
    (reply kind path result log outcome).value = .ok given ↔
      outcome = .ok () ∧ result = given := by
  cases outcome with
  | ok done => simp [reply]
  | error error => simp [reply]

/-- Asking for a change time changes nothing. -/
theorem changeTime_run_snd (host : Host) (arguments : List String) :
    ((changeTime arguments : StateM Host _).run host).2 = host := by
  by_cases fits : arguments.length = 1
  · rcases List.length_eq_one_iff.mp fits with ⟨path, rfl⟩
    rw [changeTime_run]
    split
    · rfl
    · split <;> rfl
  · rw [run_of_length_ne .cTime rfl rfl fits]

section

variable
    {host : Host}
    {arguments : List String}
    {result : String}
    (after : Host)

theorem gives_of_create
    (answered :
      ((create arguments : StateM Host _).run host).1.value = .ok result) :
    Gives host after .create arguments result := by
  by_cases fits : arguments.length = 1
  · rcases List.length_eq_one_iff.mp fits with ⟨path, rfl⟩
    rw [create_run, reply_value_eq_ok_iff] at answered
    rcases answered with ⟨created, rfl⟩
    rcases Host.exists_files_of_change created with ⟨files, created⟩
    refine .create ?_
    rintro rfl
    rw [FileTree.create_empty] at created
    cases created
  · rw [run_of_length_ne .create rfl rfl fits] at answered
    cases answered

theorem gives_of_remove
    (answered :
      ((remove arguments : StateM Host _).run host).1.value = .ok result) :
    Gives host after .remove arguments result := by
  by_cases fits : arguments.length = 1
  · rcases List.length_eq_one_iff.mp fits with ⟨path, rfl⟩
    rw [remove_run, reply_value_eq_ok_iff] at answered
    rcases answered with ⟨-, rfl⟩
    exact .remove
  · rw [run_of_length_ne .remove rfl rfl fits] at answered
    cases answered

theorem gives_of_rename
    (answered :
      ((rename arguments : StateM Host _).run host).1.value = .ok result) :
    Gives host after .rename arguments result := by
  by_cases fits : arguments.length = 2
  · match arguments, fits with
    | [path, newPath], _ =>
      rw [rename_run, reply_value_eq_ok_iff] at answered
      rcases answered with ⟨renamed, rfl⟩
      rcases Host.exists_files_of_change renamed with ⟨files, renamed⟩
      refine .rename ?_
      rintro rfl
      exact FileTree.rename_empty_ne_ok _ _ _ _ renamed
  · rw [run_of_length_ne .rename rfl rfl fits] at answered
    cases answered

theorem gives_of_write
    (answered :
      ((write arguments : StateM Host _).run host).1.value = .ok result) :
    Gives host after .write arguments result := by
  cases arguments with
  | nil => cases answered
  | cons path lines =>
    rw [write_run] at answered
    split at answered
    · cases answered
    · next found =>
      rw [reply_value_eq_ok_iff] at answered
      rcases answered with ⟨-, rfl⟩
      refine .write ?_
      rintro rfl
      rw [Host.fileStatus?_empty] at found
      cases found

theorem gives_of_changeTime
    (answered :
      ((changeTime arguments : StateM Host _).run host).1.value =
        .ok result) :
    Gives host host .cTime arguments result := by
  -- The answer is kept whole, since the same may be asked again.
  have again := answered
  by_cases fits : arguments.length = 1
  · rcases List.length_eq_one_iff.mp fits with ⟨path, rfl⟩
    rw [changeTime_run] at answered
    split at answered
    · cases answered
    · next status found =>
      split at answered
      · cases answered
      · next stamp stamped =>
        have stamp_ne : stamp ≠ "" := by
          rw [FileStatus.eq_of_stamp? stamped]
          exact Moment.textOfSeconds_ne_empty _
        cases answered
        refine .cTime ?_ stamp_ne rfl again
        rintro rfl
        rw [Host.fileStatus?_empty] at found
        cases found
  · rw [run_of_length_ne .cTime rfl rfl fits] at answered
    cases answered

end

theorem gives_of_condition
    (host after : Host)
    {arguments : List String}
    {result : String}
    (answered : conditionResult arguments = .ok result) :
    Gives host after .condition arguments result := by
  rcases conditionResult_cases arguments with
    ⟨first, second, third, rest, rfl⟩ | refused
  · rw [conditionResult_cons, bind_eq_ok_iff] at answered
    rcases answered with ⟨lower, -, answered⟩
    rw [bind_eq_ok_iff] at answered
    rcases answered with ⟨upper, -, answered⟩
    split at answered
    · cases answered
      refine .condition ?_
      rw [List.getLast?_cons_cons, List.getLast?_cons_cons]
      exact List.getLast?_eq_some_getLast _
    · cases answered
  · rw [refused] at answered
    cases answered

/-- A built-in action that is asked and gives a result gives it as its kind
does. -/
theorem gives_of_ask
    {host after : Host}
    {kind : ActionKind}
    {arguments : List String}
    {result : String}
    (answered :
      ((registry : Registry (StateM Host)).ask kind arguments).run host =
        (some (.ok result), after)) :
    Gives host after kind arguments result := by
  have value := congrArg Prod.fst answered
  cases kind with
  | unknown => cases value
  | create => exact gives_of_create after (Option.some.inj value)
  | remove => exact gives_of_remove after (Option.some.inj value)
  | rename => exact gives_of_rename after (Option.some.inj value)
  | write => exact gives_of_write after (Option.some.inj value)
  | condition => exact gives_of_condition host after (Option.some.inj value)
  | cTime =>
    have unchanged : host = after :=
      (changeTime_run_snd host arguments).symm.trans
        (congrArg Prod.snd answered)
    rw [← unchanged]
    exact gives_of_changeTime (Option.some.inj value)

/-! ## Numbers of arguments -/

theorem reply_value_ne_arity
    (kind other : ActionKind)
    (path result : String)
    (log : List LogEvent)
    (outcome : Except IoError Unit)
    (expected : Arity)
    (given : Nat) :
    (reply kind path result log outcome).value ≠
      .error (.arity other expected given) := by
  cases outcome with
  | ok done => simp [reply]
  | error error =>
    dsimp only [reply, ActionError.ofIo]
    split <;> simp

theorem changeTime_value_ne_arity
    (path : String)
    (host : Host)
    (expected : Arity)
    (given : Nat) :
    ((changeTime [path] : StateM Host _).run host).1.value ≠
      .error (.arity .cTime expected given) := by
  rw [changeTime_run]
  split
  · simp
  · split <;> simp

/-- An action that takes one number of arguments complains of any other, and
of nothing else as of a number of arguments. -/
theorem ask_eq_arity_iff
    {kind : ActionKind}
    {count : Nat}
    (fixed : fixedCount? kind = some count)
    (arguments : List String)
    (host : Host) :
    (((registry : Registry (StateM Host)).ask kind arguments).run host).1 =
        some (.error (.arity kind (.exactly count) arguments.length)) ↔
      arguments.length ≠ count := by
  constructor
  · intro refused fits
    cases kind with
    | create =>
      cases fixed
      rcases List.length_eq_one_iff.mp fits with ⟨path, rfl⟩
      exact reply_value_ne_arity _ _ _ _ _ _ _ _ (Option.some.inj refused)
    | remove =>
      cases fixed
      rcases List.length_eq_one_iff.mp fits with ⟨path, rfl⟩
      exact reply_value_ne_arity _ _ _ _ _ _ _ _ (Option.some.inj refused)
    | cTime =>
      cases fixed
      rcases List.length_eq_one_iff.mp fits with ⟨path, rfl⟩
      exact changeTime_value_ne_arity _ _ _ _ (Option.some.inj refused)
    | rename =>
      cases fixed
      match arguments, fits with
      | [path, newPath], _ =>
        exact reply_value_ne_arity _ _ _ _ _ _ _ _ (Option.some.inj refused)
    | write | condition | unknown => cases fixed
  · intro other
    rcases found : (action? kind : Option (Action (StateM Host))) with
      _ | action
    · cases kind <;> cases found
      cases fixed
    · rw [Registry.ask_run_of_find? found
        (run_of_length_ne kind fixed found other host)]

end BuiltIn

end Scenario
