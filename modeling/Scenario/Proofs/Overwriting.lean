import Scenario.Proofs.NotFound

/-!
# What writing and creating change

To write lines takes a path that leads to a file, links followed.  This file
then holds the bytes of the lines and nothing else, and everything else is as
it was; so nothing is ever added.  To create a file changes nothing if the path
leads to one, and otherwise adds an empty file.
-/

namespace Scenario

/-! ## Bytes -/

/-- The bytes of lines that each end in a newline. -/
def lineBytes (lines : List String) : List UInt8 :=
  lines.flatMap fun line => line.toUTF8.data.toList ++ [10]

theorem BuiltIn.linesText_bytes (lines : List String) :
    (linesText lines).toUTF8.data.toList = lineBytes lines := by
  rw [linesText, lineBytes]
  induction lines with
  | nil => rfl
  | cons line rest induction =>
    have newline : "\n".toByteArray.data.toList = [10] := rfl
    rw [List.map_cons, String.join_cons, List.flatMap_cons, ← induction]
    simp only [String.toUTF8_eq_toByteArray, String.toByteArray_append,
      ByteArray.data_append, Array.toList_append, newline, List.append_assoc]

/-! ## Trees -/

namespace FileTree

/-- The file at a place, to which a path leads before and after, has got these
bytes for contents, and nothing else has changed. -/
structure Overwritten
    (before after : FileTree)
    (path : String)
    (bytes : List UInt8)
    (place : Location) : Prop extends ChangesOnly before after place where
  located_before : before.locate (Path.ofText path) = .ok place
  located_after : after.locate (Path.ofText path) = .ok place
  isFile :
    ∃ contents changed, before.find? place = some (.file contents changed)
  holds :
    ∃ contents changed,
      after.find? place = some (.file contents changed) ∧
        contents.data.toList = bytes

/-- What stood at a place stands there still, or an empty file has been added
there; the path leads to it now.  Nothing else has changed. -/
structure Ensured
    (before after : FileTree)
    (path : String)
    (place : Location) : Prop extends ChangesOnly before after place where
  located : after.locate (Path.ofText path) = .ok place
  kept : before.find? place ≠ none → after = before
  added :
    before.find? place = none →
      ∃ changed, after.find? place = some (.file .empty changed)

section

variable
    {tree after : FileTree}
    {time : Int}
    {path text : String}

theorem exists_overwritten_of_replace
    (named : tree.NamesFile path)
    (replaced : tree.replace time path text = .ok after) :
    ∃ place,
      tree.Overwritten after path text.toUTF8.data.toList place := by
  rcases replace_eq_ok_iff.mp replaced with ⟨place, opened, rfl⟩
  rcases placeFor_eq_ok_iff.mp opened with ⟨isPath, leads, noDevice⟩
  have takes := takesFile_of_writingPlaceFrom leads
  have taken := named.find?_ne_none isPath leads
  have there := find?_insert_self tree takes.inner (.file text.toUTF8 time)
  exact ⟨place, {
    toChangesOnly := changesOnly_insert tree place _
    located_before := locate_of_writingPlace leads taken
    located_after := locate_insert text.toUTF8 time leads
    isFile := takes.exists_file noDevice taken
    holds := ⟨_, time, there, rfl⟩ }⟩

theorem exists_ensured_of_create
    (created : tree.create time path = .ok after) :
    ∃ place, tree.Ensured after path place := by
  rcases create_eq_ok_iff.mp created with ⟨place, isPath, leads, rfl⟩
  have takes := takesFile_of_writingPlaceFrom leads
  by_cases free : tree.find? place = none
  · rw [if_pos free]
    exact ⟨place, {
      toChangesOnly := changesOnly_insert tree place _
      located := locate_insert .empty time leads
      kept := fun taken => (taken free).elim
      added := fun _ => ⟨time, find?_insert_self tree takes.inner _⟩ }⟩
  · rw [if_neg free]
    exact ⟨place, {
      toChangesOnly := changesOnly_refl tree place
      located := locate_of_writingPlace leads free
      kept := fun _ => rfl
      added := fun absent => (free absent).elim }⟩

/-- To write into a file that exists adds nothing and takes nothing away. -/
theorem Overwritten.isSome_find?
    {bytes : List UInt8}
    {place : Location}
    (overwritten : tree.Overwritten after path bytes place)
    (location : Location) :
    (after.find? location).isSome = (tree.find? location).isSome := by
  by_cases here : location = place
  · subst here
    rcases overwritten.isFile with ⟨contents, changed, found⟩
    rcases overwritten.holds with ⟨contents', changed', there, -⟩
    rw [found, there]
    rfl
  · rw [overwritten.others location here]

end

end FileTree

/-! ## Actions -/

namespace BuiltIn

/-- Lines that are written are written into a file that exists. -/
theorem exists_replace_of_write
    {host : Host}
    {arguments : List String}
    {result : String}
    (answered :
      ((write arguments : StateM Host _).run host).1.value = .ok result) :
    ∃ lines,
      arguments = result :: lines ∧
        host.files.NamesFile result ∧
        host.files.replace host.second result (linesText lines) =
          .ok ((write arguments : StateM Host _).run host).2.files := by
  cases arguments with
  | nil => cases answered
  | cons path lines =>
    rw [write_run] at answered ⊢
    split at answered
    · cases answered
    · next status found =>
      dsimp only at answered ⊢
      rw [reply_value_eq_ok_iff] at answered
      rcases answered with ⟨replaced, rfl⟩
      have named : host.files.NamesFile path := by
        apply Classical.not_not.mp
        intro absent
        rw [(host.fileStatus?_eq_none_iff path).mpr absent] at found
        cases found
      exact ⟨lines, rfl, named, Host.files_of_change replaced⟩

/-- Lines are written into a file that exists if the tree takes them. -/
theorem write_run_of_replace
    {host : Host}
    {path : String}
    {lines : List String}
    {files : FileTree}
    (named : host.files.NamesFile path)
    (replaced :
      host.files.replace host.second path (linesText lines) = .ok files) :
    ∃ log,
      (write (path :: lines) : StateM Host _).run host =
        ({ value := .ok path, log }, host.advance files) := by
  have done :
      (Host.change fun tree time =>
          tree.replace time path (linesText lines)).run host =
        (.ok (), host.advance files) :=
    Host.change_of_ok replaced
  rw [write_run]
  cases found : host.fileStatus? path with
  | none => exact ((host.fileStatus?_eq_none_iff path).mp found named).elim
  | some status =>
    dsimp only
    rw [done]
    exact ⟨_, rfl⟩

theorem exists_create_of_create
    {host : Host}
    {arguments : List String}
    {result : String}
    (answered :
      ((create arguments : StateM Host _).run host).1.value = .ok result) :
    arguments = [result] ∧
      host.files.create host.second result =
        .ok ((create arguments : StateM Host _).run host).2.files := by
  by_cases fits : arguments.length = 1
  · rcases List.length_eq_one_iff.mp fits with ⟨path, rfl⟩
    rw [create_run] at answered ⊢
    rw [reply_value_eq_ok_iff] at answered
    rcases answered with ⟨created, rfl⟩
    exact ⟨rfl, Host.files_of_change created⟩
  · rw [run_of_length_ne .create rfl rfl fits] at answered
    cases answered

/-- Lines are written into exactly one file, which exists, and nothing is ever
added by writing; a file is created by adding an empty one at most, and what
exists stays. -/
theorem write_create_exact (host : Host) (arguments : List String) :
    let written := (write arguments : StateM Host _).run host
    let created := (create arguments : StateM Host _).run host
    (∀ result, written.1.value = .ok result →
        ∃ lines place,
          arguments = result :: lines ∧
            host.files.NamesFile result ∧
            host.files.Overwritten written.2.files result (lineBytes lines)
              place) ∧
      (∀ location,
        (written.2.files.find? location).isSome =
          (host.files.find? location).isSome) ∧
      ∀ result, created.1.value = .ok result →
        arguments = [result] ∧
          ∃ place, host.files.Ensured created.2.files result place := by
  intro written created
  have overwritten
      (result : String)
      (answered : written.1.value = .ok result) :
      ∃ lines place,
        arguments = result :: lines ∧
          host.files.NamesFile result ∧
          host.files.Overwritten written.2.files result (lineBytes lines)
            place := by
    rcases exists_replace_of_write answered with
      ⟨lines, given, named, replaced⟩
    rcases FileTree.exists_overwritten_of_replace named replaced with
      ⟨place, overwritten⟩
    rw [linesText_bytes] at overwritten
    exact ⟨lines, place, given, named, overwritten⟩
  refine ⟨overwritten, ?_, ?_⟩
  · intro location
    cases answered : written.1.value with
    | error error =>
      have unchanged : written.2 = host := write_snd_of_error answered
      rw [unchanged]
    | ok result =>
      rcases overwritten result answered with ⟨lines, place, -, -, replaced⟩
      exact replaced.isSome_find? location
  · intro result answered
    rcases exists_create_of_create answered with ⟨given, created⟩
    exact ⟨given, FileTree.exists_ensured_of_create created⟩

/-- A file is written through a link, and a longer text is replaced as a
whole. -/
theorem write_create_exact_link :
    let old : Entry := .file "a longer text".toUTF8 0
    let files : FileTree :=
      { entries := [(["file"], old), (["link"], .link "file")] }
    let host : Host := { files }
    let written := (write ["link", "new", ""] : StateM Host _).run host
    written.1.value = .ok "link" ∧
      files.locate (Path.ofText "link") = .ok ["file"] ∧
      ∃ contents changed,
        written.2.files.find? ["file"] = some (.file contents changed) ∧
          contents.data.toList = lineBytes ["new", ""] := by
  intro old files host written
  have target :
      files.writingPlaceFrom 39 (Path.ofText "file") [] = .ok ["file"] :=
    (FileTree.opens_name rfl ⟨by decide, by decide, by decide⟩
      (.inl ⟨FileTree.takesFile_of_file nofun rfl,
        rfl⟩)).writingPlaceFrom_eq
  have opened : files.writingPlace (Path.ofText "link") = .ok ["file"] :=
    (FileTree.opens_name rfl ⟨by decide, by decide, by decide⟩
      (.inr ⟨39, "file", rfl, rfl, target⟩)).writingPlaceFrom_eq
  have located := FileTree.locate_of_writingPlace opened nofun
  have answered : written.1.value = .ok "link" := by
    have named : files.NamesFile "link" :=
      ⟨old, FileTree.status_of_locate rfl located rfl, nofun⟩
    have replaced :
        host.files.replace host.second "link" (linesText ["new", ""]) =
          .ok _ :=
      FileTree.replace_eq_ok_iff.mpr
        ⟨_, FileTree.placeFor_eq_ok_iff.mpr ⟨rfl, opened, nofun⟩, rfl⟩
    rcases write_run_of_replace named replaced with ⟨log, run⟩
    exact congrArg (fun ran => ran.1.value) run
  rcases (write_create_exact host ["link", "new", ""]).1 "link" answered with
    ⟨lines, place, given, -, replaced⟩
  have same := located.symm.trans replaced.located_before
  rw [← Except.ok.inj same, ← (List.cons.inj given).2] at replaced
  exact ⟨answered, located, replaced.holds⟩

end BuiltIn

end Scenario
