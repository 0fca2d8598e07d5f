import Scenario.Proofs.FileTree.Missing
import Scenario.Proofs.Traces

/-!
# What an action says is missing

An action that meets a missing file names a path, and if the action is no
renaming, this path names no file.  A renaming always names its old path.  It
does so as well if the directory of its new path is missing, and this is the
only way in which a file that exists is said to be missing.
-/

namespace Scenario

/-- A path names no file if there is no status of one. -/
theorem Host.fileStatus?_eq_none_iff (host : Host) (path : String) :
    host.fileStatus? path = none ↔ ¬host.files.NamesFile path := by
  rw [fileStatus?, FileTree.NamesFile]
  rcases host.files.status path with error | entry
  · simp [Except.map]
  · cases entry <;> simp [Except.map, statusOf, Entry.isDirectory]

theorem Host.change_run_eq_error_iff
    {operation : FileTree → Int → Except IoError FileTree}
    {host : Host}
    {error : IoError} :
    ((change operation).run host).1 = .error error ↔
      operation host.files host.second = .error error := by
  rw [StateT.run, change]
  cases operation host.files host.second <;> simp

namespace BuiltIn

theorem reply_value_eq_notFound_iff
    (kind : ActionKind)
    (path result : String)
    (log : List LogEvent)
    (outcome : Except IoError Unit)
    (told : ActionKind)
    (missing : String) :
    (reply kind path result log outcome).value =
        .error (.notFound told missing) ↔
      kind = told ∧ path = missing ∧ outcome = .error (.os .noSuchFile) := by
  cases outcome with
  | ok done => simp [reply]
  | error error =>
    by_cases missing : error = .os .noSuchFile
    · simp [reply, ActionError.ofIo, IoError.isNotFound, missing]
    · simp [reply, ActionError.ofIo, IoError.isNotFound, missing]

theorem conditionResult_ne_notFound
    (arguments : List String)
    (told : ActionKind)
    (missing : String) :
    conditionResult arguments ≠ .error (.notFound told missing) := by
  have moment (value : String) :
      momentOf value ≠ .error (.notFound told missing) := by
    rw [momentOf]
    cases Moment.ofText value <;> simp
  intro failed
  rcases conditionResult_cases arguments with
    ⟨first, second, third, rest, rfl⟩ | refused
  · rw [conditionResult_cons, bind_eq_error_iff] at failed
    rcases failed with first | ⟨lower, -, failed⟩
    · exact moment _ first
    · rw [bind_eq_error_iff] at failed
      rcases failed with second | ⟨upper, -, failed⟩
      · exact moment _ second
      · split at failed
        · cases failed
        · cases failed
  · rw [refused] at failed
    cases failed

section

variable
    {host : Host}
    {path : String}
    {told : ActionKind}
    {arguments : List String}
    (named : host.files.NamesFile path)

include named

/-- An action that changes the tree does not say that its path is missing if the
change fails in this way only when the path names nothing. -/
theorem reply_change_ne_notFound
    {operation : FileTree → Int → Except IoError FileTree}
    {asked : String}
    (names :
      operation host.files host.second = .error (.os .noSuchFile) →
        host.files.status asked = .error (.os .noSuchFile))
    (kind : ActionKind)
    (result : String)
    (log : List LogEvent) :
    (reply kind asked result log
        ((Host.change operation).run host).1).value ≠
      .error (.notFound told path) := by
  intro missing
  rw [reply_value_eq_notFound_iff] at missing
  rcases missing with ⟨-, rfl, missing⟩
  exact FileTree.not_namesFile_of_status_error
    (names (Host.change_run_eq_error_iff.mp missing)) named

theorem create_ne_notFound :
    ((create arguments : StateM Host _).run host).1.value ≠
      .error (.notFound told path) := by
  by_cases fits : arguments.length = 1
  · rcases List.length_eq_one_iff.mp fits with ⟨asked, rfl⟩
    rw [create_run]
    apply reply_change_ne_notFound named
    exact FileTree.status_of_create_missing
  · rw [run_of_length_ne .create rfl rfl fits]
    exact nofun

theorem remove_ne_notFound :
    ((remove arguments : StateM Host _).run host).1.value ≠
      .error (.notFound told path) := by
  by_cases fits : arguments.length = 1
  · rcases List.length_eq_one_iff.mp fits with ⟨asked, rfl⟩
    rw [remove_run]
    apply reply_change_ne_notFound named
    exact FileTree.status_of_remove_missing
  · rw [run_of_length_ne .remove rfl rfl fits]
    exact nofun

theorem write_ne_notFound :
    ((write arguments : StateM Host _).run host).1.value ≠
      .error (.notFound told path) := by
  cases arguments with
  | nil => exact nofun
  | cons asked lines =>
    rw [write_run]
    split
    · next absent =>
      rintro ⟨⟩
      exact (host.fileStatus?_eq_none_iff path).mp absent named
    · exact reply_change_ne_notFound named FileTree.status_of_replace_missing
        .write _ _

theorem changeTime_ne_notFound :
    ((changeTime arguments : StateM Host _).run host).1.value ≠
      .error (.notFound told path) := by
  intro missing
  by_cases fits : arguments.length = 1
  · rcases List.length_eq_one_iff.mp fits with ⟨asked, rfl⟩
    rw [changeTime_run] at missing
    split at missing
    · next absent =>
      cases missing
      exact (host.fileStatus?_eq_none_iff path).mp absent named
    · split at missing
      · cases missing
      · cases missing
  · rw [run_of_length_ne .cTime rfl rfl fits] at missing
    cases missing

/-- A renaming says that its old path is missing, although this names a file,
exactly if its new path lacks a directory. -/
theorem rename_eq_notFound_iff :
    ((rename arguments : StateM Host _).run host).1.value =
        .error (.notFound told path) ↔
      told = .rename ∧
        ∃ newPath,
          arguments = [path, newPath] ∧
            host.files.LacksDirectory newPath := by
  constructor
  · intro missing
    by_cases fits : arguments.length = 2
    · match arguments, fits with
      | [asked, newPath], _ =>
        rw [rename_run, reply_value_eq_notFound_iff] at missing
        rcases missing with ⟨rfl, rfl, missing⟩
        refine ⟨rfl, newPath, rfl, ?_⟩
        rcases
            FileTree.status_of_rename_missing
              (Host.change_run_eq_error_iff.mp missing) with
          absent | lacks
        · exact (FileTree.not_namesFile_of_status_error absent named).elim
        · exact lacks
    · rw [run_of_length_ne .rename rfl rfl fits] at missing
      cases missing
  · rintro ⟨rfl, newPath, rfl, lacks⟩
    rw [rename_run, reply_value_eq_notFound_iff]
    exact ⟨rfl, rfl, Host.change_run_eq_error_iff.mpr
      (FileTree.rename_of_lacksDirectory named lacks _)⟩

/-- Only a renaming says of a path that names a file that it is missing. -/
theorem ask_ne_notFound
    {kind : ActionKind}
    (noRenaming : kind ≠ .rename) :
    (((registry : Registry (StateM Host)).ask kind arguments).run host).1 ≠
      some (.error (.notFound told path)) := by
  cases kind with
  | unknown => exact nofun
  | create => exact mt Option.some.inj (create_ne_notFound named)
  | remove => exact mt Option.some.inj (remove_ne_notFound named)
  | write => exact mt Option.some.inj (write_ne_notFound named)
  | cTime => exact mt Option.some.inj (changeTime_ne_notFound named)
  | condition =>
    exact mt Option.some.inj (conditionResult_ne_notFound arguments told path)
  | rename => exact (noRenaming rfl).elim

/-- An action says of a path that names a file that it is missing exactly if it
is the renaming of this path, and the new path lacks a directory.  Otherwise
what is said to be missing names nothing, or a directory. -/
theorem ask_eq_notFound_iff (kind : ActionKind) :
    (((registry : Registry (StateM Host)).ask kind arguments).run host).1 =
        some (.error (.notFound told path)) ↔
      kind = .rename ∧ told = .rename ∧
        ∃ newPath,
          arguments = [path, newPath] ∧
            host.files.LacksDirectory newPath := by
  by_cases sort : kind = .rename
  · subst sort
    have answered :
        (((registry : Registry (StateM Host)).ask .rename arguments).run
            host).1 =
          some ((rename arguments : StateM Host _).run host).1.value :=
      rfl
    rw [answered, Option.some_inj, rename_eq_notFound_iff named]
    exact (and_iff_right rfl).symm
  · exact iff_of_false (ask_ne_notFound named sort) fun given => sort given.1

end

/-- The empty path lacks a directory. -/
theorem ask_eq_notFound_iff_empty :
    let files : FileTree := { entries := [(["a"], .file .empty 0)] }
    let host : Host := { files }
    files.NamesFile "a" ∧
      files.LacksDirectory "" ∧
      (((registry : Registry (StateM Host)).ask .rename ["a", ""]).run
          host).1 =
        some (.error (.notFound .rename "a")) := by
  intro files host
  have named : files.NamesFile "a" :=
    FileTree.namesFile_of_name rfl rfl ⟨by decide, by decide, by decide⟩ rfl
  have lacks : files.LacksDirectory "" := by
    rw [FileTree.LacksDirectory, Path.check_empty]
    rfl
  exact ⟨named, lacks,
    (ask_eq_notFound_iff named .rename).mpr ⟨rfl, rfl, "", rfl, lacks⟩⟩

/-- A file that exists is said to be missing, since the directory that it is to
be moved to is. -/
theorem rename_tells_existing_path :
    let files : FileTree := { entries := [(["a"], .file .empty 0)] }
    let host : Host := { files }
    (((registry : Registry (StateM Host)).ask .rename
          ["a", "missing/b"]).run host).1 =
        some (.error (.notFound .rename "a")) ∧
      files.NamesFile "a" := by
  intro files host
  have named : files.NamesFile "a" :=
    FileTree.namesFile_of_name rfl rfl ⟨by decide, by decide, by decide⟩ rfl
  have lacks : files.LacksDirectory "missing/b" :=
    FileTree.lacksDirectory_of_first_missing rfl rfl rfl
      ⟨by decide, by decide, by decide⟩ rfl
  exact ⟨congrArg some ((rename_eq_notFound_iff named).mpr
    ⟨rfl, "missing/b", rfl, lacks⟩), named⟩

end BuiltIn

end Scenario
