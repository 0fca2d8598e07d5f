import Scenario.Proofs.Condition
import Scenario.Proofs.FileTree.Dated

/-!
# Hosts that differ in change times

Two hosts whose file trees differ in change times alone are changed alike by
the same call of a built-in action, and answer it alike, whatever their clocks
show at the changes to come, and whatever their time zones are.  Only the answer
of a change-time action may differ, and then it is the text of a second on both
hosts, provided that the calendar has all change times.
-/

namespace Scenario

/-- A change time that the calendar has is told, whatever the local time. -/
theorem FileStatus.stamp?_of_inCalendar
    {status : FileStatus}
    (inCalendar : Moment.InCalendar status.changed) :
    status.stamp? =
      some (Moment.textOfSeconds (status.changed + status.offset)) := by
  rcases Option.isSome_iff_exists.mp inCalendar with ⟨universal, found⟩
  rw [stamp?, found, Option.map_some]

namespace Host

/-- The second that the clock shows at the change with the given number among
those to come. -/
def secondAt (host : Host) : Nat → Int
  | 0 => host.second
  | number + 1 => host.readings number / nanosecondsPerSecond

/-- The calendar has the times of so many changes to come. -/
def Timed (host : Host) (changes : Nat) : Prop :=
  ∀ number < changes, Moment.InCalendar (host.secondAt number)

instance (host : Host) (changes : Nat) : Decidable (host.Timed changes) :=
  inferInstanceAs (Decidable (∀ _ < _, _))

section

variable
    {host : Host}
    {fewer changes : Nat}

theorem Timed.mono
    (timed : host.Timed changes)
    (le : fewer ≤ changes) :
    host.Timed fewer :=
  fun number lt => timed number (Nat.lt_of_lt_of_le lt le)

theorem Timed.second
    (timed : host.Timed (changes + 1)) :
    Moment.InCalendar host.second :=
  timed 0 (Nat.succ_pos changes)

/-- After a change the clock shows what it was to show at the next one. -/
theorem secondAt_advance (host : Host) (files : FileTree) (number : Nat) :
    (host.advance files).secondAt number = host.secondAt (number + 1) := by
  cases number <;> rfl

theorem Timed.later
    (timed : host.Timed (changes + 1))
    (files : FileTree) :
    (host.advance files).Timed changes := by
  intro number lt
  rw [secondAt_advance]
  exact timed (number + 1) (Nat.succ_lt_succ lt)

end

/-- The calendar has all change times of a host, also after so many changes. -/
structure Dated (host : Host) (changes : Nat) : Prop where
  files : host.files.Dated
  timed : host.Timed changes

theorem Dated.mono
    {host : Host}
    {fewer changes : Nat}
    (dated : host.Dated changes)
    (le : fewer ≤ changes) :
    host.Dated fewer where
  files := dated.files
  timed := dated.timed.mono le

/-- Two hosts differ in change times alone, and will do so for so many more
changes. -/
structure Alike (changes : Nat) (one other : Host) : Prop where
  untimed_eq : one.files.untimed = other.files.untimed
  dated : one.Dated changes
  otherDated : other.Dated changes

theorem Alike.mono
    {one other : Host}
    {fewer changes : Nat}
    (alike : Alike changes one other)
    (le : fewer ≤ changes) :
    Alike fewer one other where
  untimed_eq := alike.untimed_eq
  dated := alike.dated.mono le
  otherDated := alike.otherDated.mono le

/-- An operation on trees that looks at no change time, and leaves only change
times that the calendar has. -/
structure Timeless
    (operation : FileTree → Int → Except IoError FileTree)
    (plain : FileTree → Except IoError FileTree) : Prop where
  map_untimed :
    ∀ tree time,
      (operation tree time).map FileTree.untimed = plain tree.untimed
  dated :
    ∀ tree time after,
      tree.Dated → Moment.InCalendar time → operation tree time = .ok after →
        after.Dated

theorem Timeless.dated_change
    {operation : FileTree → Int → Except IoError FileTree}
    {plain : FileTree → Except IoError FileTree}
    (timeless : Timeless operation plain)
    {host : Host}
    {changes : Nat}
    (dated : host.Dated (changes + 1)) :
    (change operation host).2.Dated changes := by
  cases outcome : operation host.files host.second with
  | error error =>
    rw [change_snd_of_error outcome]
    exact dated.mono (Nat.le_succ changes)
  | ok files =>
    rw [change_of_ok outcome]
    exact {
      files := timeless.dated _ _ _ dated.files dated.timed.second outcome
      timed := dated.timed.later files }

/-- The same change on hosts alike is made on both or on none. -/
theorem Timeless.alike_change
    {operation : FileTree → Int → Except IoError FileTree}
    {plain : FileTree → Except IoError FileTree}
    (timeless : Timeless operation plain)
    {one other : Host}
    {changes : Nat}
    (alike : Alike (changes + 1) one other) :
    (change operation one).1 = (change operation other).1 ∧
      Alike changes (change operation one).2 (change operation other).2 := by
  have same :
      (operation one.files one.second).map FileTree.untimed =
        (operation other.files other.second).map FileTree.untimed := by
    rw [timeless.map_untimed, timeless.map_untimed, alike.untimed_eq]
  have dated := timeless.dated_change alike.dated
  have otherDated := timeless.dated_change alike.otherDated
  revert dated otherDated
  cases outcome : operation one.files one.second with
  | error error =>
    cases otherOutcome : operation other.files other.second with
    | error otherError =>
      rw [outcome, otherOutcome] at same
      cases same
      rw [change_snd_of_error outcome, change_snd_of_error otherOutcome]
      intro dated otherDated
      exact ⟨rfl, alike.untimed_eq, dated, otherDated⟩
    | ok otherFiles =>
      rw [outcome, otherOutcome] at same
      cases same
  | ok files =>
    cases otherOutcome : operation other.files other.second with
    | error otherError =>
      rw [outcome, otherOutcome] at same
      cases same
    | ok otherFiles =>
      rw [outcome, otherOutcome] at same
      rw [change_of_ok outcome, change_of_ok otherOutcome]
      intro dated otherDated
      exact ⟨rfl, Except.ok.inj same, dated, otherDated⟩

theorem timeless_create (path : String) :
    Timeless (fun tree time => tree.create time path)
      (fun tree => tree.create 0 path) where
  map_untimed tree time := tree.map_untimed_create time path
  dated _ _ _ dated inCalendar done := dated.create inCalendar done

theorem timeless_remove (path : String) :
    Timeless (fun tree _ => tree.remove path)
      (fun tree => tree.remove path) where
  map_untimed tree _ := tree.map_untimed_remove path
  dated _ _ _ dated _ done := dated.remove done

theorem timeless_rename (path newPath : String) :
    Timeless (fun tree time => tree.rename time path newPath)
      (fun tree => tree.rename 0 path newPath) where
  map_untimed tree time := tree.map_untimed_rename time path newPath
  dated _ _ _ dated inCalendar done := dated.rename inCalendar done

theorem timeless_replace (path text : String) :
    Timeless (fun tree time => tree.replace time path text)
      (fun tree => tree.replace 0 path text) where
  map_untimed tree time := tree.map_untimed_replace time path text
  dated _ _ _ dated inCalendar done := dated.replace inCalendar done

/-! ## What is told of a file -/

theorem isDirectory_statusOf (host : Host) (entry : Entry) :
    (host.statusOf entry).isDirectory = entry.isDirectory := by
  cases entry <;> rfl

theorem inCalendar_statusOf
    (host : Host)
    {entry : Entry}
    (dated : entry.Dated) :
    Moment.InCalendar (host.statusOf entry).changed := by
  have zero : Moment.InCalendar 0 := by decide
  cases entry with
  | directory => exact zero
  | link target => exact zero
  | file contents changed => exact dated changed rfl
  | fullDevice changed => exact dated changed rfl

/-- On hosts alike a path names a file on both or on none, and the calendar has
the change times of both files. -/
theorem Alike.fileStatus?
    {one other : Host}
    {changes : Nat}
    (alike : Alike changes one other)
    (path : String) :
    (one.fileStatus? path = none ∧ other.fileStatus? path = none) ∨
      ∃ status otherStatus,
        one.fileStatus? path = some status ∧
          other.fileStatus? path = some otherStatus ∧
          Moment.InCalendar status.changed ∧
          Moment.InCalendar otherStatus.changed := by
  have same :
      (one.files.status path).map Entry.untimed =
        (other.files.status path).map Entry.untimed := by
    rw [one.files.map_untimed_status, other.files.map_untimed_status,
      alike.untimed_eq]
  unfold Host.fileStatus?
  cases told : one.files.status path with
  | error error =>
    cases otherTold : other.files.status path with
    | error otherError => exact .inl ⟨rfl, rfl⟩
    | ok otherEntry =>
      rw [told, otherTold] at same
      cases same
  | ok entry =>
    cases otherTold : other.files.status path with
    | error otherError =>
      rw [told, otherTold] at same
      cases same
    | ok otherEntry =>
      rw [told, otherTold] at same
      have directory : entry.isDirectory = otherEntry.isDirectory := by
        rw [← entry.isDirectory_untimed, Except.ok.inj same,
          otherEntry.isDirectory_untimed]
      simp only [Except.map, isDirectory_statusOf, ← directory]
      by_cases isDirectory : entry.isDirectory
      · rw [if_pos isDirectory, if_pos isDirectory]
        exact .inl ⟨rfl, rfl⟩
      · rw [if_neg isDirectory, if_neg isDirectory]
        exact .inr ⟨_, _, rfl, rfl,
          one.inCalendar_statusOf (alike.dated.files.status told),
          other.inCalendar_statusOf (alike.otherDated.files.status otherTold)⟩

end Host

namespace BuiltIn

/-- What the built-in action of a kind answers on hosts alike: the same, unless
it is the text of a change time. -/
inductive AnswersAlike (kind : ActionKind) :
    Option ActionResult → Option ActionResult → Prop where
  | same (reply?) : AnswersAlike kind reply? reply?
  | stamps
      (isLookup : kind = .cTime)
      (one other : Int) :
    AnswersAlike kind (some (.ok (Moment.textOfSeconds one)))
      (some (.ok (Moment.textOfSeconds other)))

variable
    {one other : Host}
    {changes : Nat}

theorem answersAlike_changeTimeOn
    (alike : Host.Alike changes one other)
    (arguments : List String) :
    AnswersAlike .cTime (some (changeTimeOn one arguments))
      (some (changeTimeOn other arguments)) := by
  rcases arguments with _ | ⟨path, _ | ⟨second, rest⟩⟩
  · exact .same _
  · rw [changeTimeOn_eq, changeTimeOn_eq]
    rcases alike.fileStatus? path with
      ⟨absent, otherAbsent⟩ |
      ⟨status, otherStatus, found, otherFound, told, otherTold⟩
    · rw [absent, otherAbsent]
      exact .same _
    · simp only [found, otherFound, FileStatus.stamp?_of_inCalendar told,
        FileStatus.stamp?_of_inCalendar otherTold]
      exact .stamps rfl _ _
  · exact .same _

/-- The change that a call makes, and what it answers to it. -/
theorem answersAlike_of_change
    {operation : FileTree → Int → Except IoError FileTree}
    {plain : FileTree → Except IoError FileTree}
    (timeless : Host.Timeless operation plain)
    (alike : Host.Alike (changes + 1) one other)
    (kind : ActionKind)
    (answer : Except IoError Unit → ActionResult) :
    AnswersAlike kind (some (answer (Host.change operation one).1))
        (some (answer (Host.change operation other).1)) ∧
      Host.Alike changes (Host.change operation one).2
        (Host.change operation other).2 := by
  rcases timeless.alike_change alike with ⟨same, left⟩
  rw [same]
  exact ⟨.same _, left⟩

/-- The same call of a built-in action on hosts alike is answered alike and
leaves hosts alike. -/
theorem answersAlike_ask
    (alike : Host.Alike (changes + 1) one other)
    (kind : ActionKind)
    (arguments : List String) :
    let asked (host : Host) :=
      ((registry : Registry (StateM Host)).ask kind arguments).run host
    AnswersAlike kind (asked one).1 (asked other).1 ∧
      Host.Alike changes (asked one).2 (asked other).2 := by
  intro asked
  have fewer := alike.mono (Nat.le_succ changes)
  cases kind with
  | unknown => exact ⟨.same _, fewer⟩
  | condition => exact ⟨.same _, fewer⟩
  | create =>
    rcases arguments with _ | ⟨path, _ | ⟨second, rest⟩⟩
    · exact ⟨.same _, fewer⟩
    · exact answersAlike_of_change (Host.timeless_create path) alike .create
        fun done => (reply .create path path _ done).value
    · exact ⟨.same _, fewer⟩
  | remove =>
    rcases arguments with _ | ⟨path, _ | ⟨second, rest⟩⟩
    · exact ⟨.same _, fewer⟩
    · exact answersAlike_of_change (Host.timeless_remove path) alike .remove
        fun done => (reply .remove path "" [] done).value
    · exact ⟨.same _, fewer⟩
  | rename =>
    rcases arguments with _ | ⟨path, _ | ⟨newPath, _ | ⟨third, rest⟩⟩⟩
    · exact ⟨.same _, fewer⟩
    · exact ⟨.same _, fewer⟩
    · exact answersAlike_of_change (Host.timeless_rename path newPath) alike
        .rename fun done => (reply .rename path newPath [] done).value
    · exact ⟨.same _, fewer⟩
  | write =>
    rcases arguments with _ | ⟨path, lines⟩
    · exact ⟨.same _, fewer⟩
    · have answered (host : Host) :
          asked host =
            let written := (write (path :: lines) : StateM Host _).run host
            (some written.1.value, written.2) :=
        rfl
      rw [answered, answered, write_run, write_run]
      rcases alike.fileStatus? path with
        ⟨absent, otherAbsent⟩ | ⟨status, otherStatus, found, otherFound, -⟩
      · rw [absent, otherAbsent]
        exact ⟨.same _, fewer⟩
      · rw [found, otherFound]
        exact answersAlike_of_change
          (Host.timeless_replace path (linesText lines)) alike .write
          fun done => (reply .write path path _ done).value
  | cTime =>
    have answered (host : Host) :
        asked host = (some (changeTimeOn host arguments), host) :=
      Prod.ext rfl (changeTime_run_snd host arguments)
    rw [answered, answered]
    exact ⟨answersAlike_changeTimeOn fewer arguments, fewer⟩

end BuiltIn

end Scenario
