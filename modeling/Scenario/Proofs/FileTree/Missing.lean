import Scenario.Proofs.FileTree.Moving

/-!
# What is missing when something is missing

An operation that fails because something does not exist does not say what it
is.  If the operation has one path, links followed, this path names no file:
either the directory of its last name is missing, or that name itself.  A
renaming has two paths, and may fail because of the new one although the file
is there.
-/

namespace Scenario.FileTree

/-- Links followed, the path names something that is no directory. -/
def NamesFile (tree : FileTree) (path : String) : Prop :=
  ∃ entry, tree.status path = .ok entry ∧ ¬entry.isDirectory

/-- On the way to the directory of the last name of the path something is
missing. -/
def LacksDirectory (tree : FileTree) (path : String) : Prop :=
  (do (tree.place (← Path.check path)).mapError .os) =
    .error (.os .noSuchFile)

theorem mapError_os_eq_error_iff
    {α : Type}
    {outcome : Except OsError α}
    {error : OsError} :
    outcome.mapError IoError.os = .error (.os error) ↔
      outcome = .error error := by
  cases outcome <;> simp

/-! ## Following a path -/

/-- All names of a path but the last are followed first. -/
theorem exists_steps_eq (path : Path) :
    ∃ back, path.steps = path.names.dropLast ++ back := by
  rcases List.dropLast_prefix path.names with ⟨back, names⟩
  by_cases slash : path.endsInSlash
  · refine ⟨back ++ ["."], ?_⟩
    rw [Path.steps, if_pos slash, ← List.append_assoc, names]
  · refine ⟨back, ?_⟩
    rw [Path.steps, if_neg slash, names]

section

variable
    {tree : FileTree}
    {links : Nat}
    {path : Path}
    {place : Location}

theorem walk_dropLast_of_parent
    {error : OsError}
    (failed : tree.parent links path place = .error error)
    (other : error ≠ .notDirectory) :
    tree.walk links path.names.dropLast (path.start place) = .error error := by
  rw [parent] at failed
  split at failed
  · next walked =>
    cases failed
    exact walked
  · split at failed
    · cases failed
    · cases failed
      exact (other rfl).elim

/-- If the directory of a path is missing, the path leads nowhere. -/
theorem walk_of_parent_missing
    (missing : tree.parent links path place = .error .noSuchFile) :
    tree.walk links path.steps (path.start place) = .error .noSuchFile := by
  rcases exists_steps_eq path with ⟨back, steps⟩
  rw [steps, walk_append, walk_dropLast_of_parent missing nofun]

/-- If the last name of a path is missing in its directory, the path leads
nowhere. -/
theorem walk_of_name_missing
    {left : Nat}
    {directory : Location}
    {name : String}
    (parent : tree.parent links path place = .ok (left, directory))
    (named : entryName? path = some name)
    (short : ¬Path.greatestNameLength < name.utf8ByteSize)
    (absent : tree.find? (name :: directory) = none) :
    tree.walk links path.steps (path.start place) = .error .noSuchFile := by
  rcases parent_eq_ok_iff.mp parent with ⟨walked, inside⟩
  rw [steps_eq_of_entryName? named, walk_append, walked]
  dsimp only
  rw [walk_plain inside (isPlain_of_entryName? named short), absent]

/-- If something is missing when a file is opened for writing, the path leads
nowhere. -/
theorem walk_of_writingPlaceFrom_missing
    (missing : tree.writingPlaceFrom links path place = .error .noSuchFile) :
    tree.walk links path.steps (path.start place) = .error .noSuchFile := by
  -- The induction is on the links that may still be followed.
  induction links using Nat.strongRecOn generalizing path place with
  | ind links induction =>
    rw [writingPlaceFrom_eq] at missing
    split at missing
    · next parent =>
      cases missing
      exact walk_of_parent_missing parent
    · next left directory parent =>
      split at missing
      · cases missing
      · next name named =>
        split at missing
        · cases missing
        · next noSlash =>
          split at missing
          · cases missing
          · next short =>
            split at missing
            · cases missing
            · next target link =>
              split at missing
              · cases missing
              · next fewer =>
                have fewer_lt := parent_links_le parent
                rcases parent_eq_ok_iff.mp parent with ⟨walked, inside⟩
                rw [steps_eq_of_entryName? named, if_neg noSlash, walk_append,
                  walked]
                dsimp only
                rw [walk_link inside (isPlain_of_entryName? named short) link,
                  List.append_nil]
                exact induction fewer fewer_lt missing
            · cases missing

/-- A path that opens a file for writing where nothing stands leads nowhere
yet. -/
theorem walk_of_writingPlaceFrom_free
    {found : Location}
    (opened : tree.writingPlaceFrom links path place = .ok found)
    (free : tree.find? found = none) :
    tree.walk links path.steps (path.start place) = .error .noSuchFile := by
  induction links using Nat.strongRecOn generalizing path place with
  | ind links induction =>
    rcases exists_opens opened with ⟨left, directory, name, opens⟩
    rcases parent_eq_ok_iff.mp opens.parent_eq with ⟨walked, inside⟩
    rw [opens.steps_eq, walk_append, walked]
    dsimp only
    rcases opens.opened with ⟨takes, rfl⟩ | ⟨fewer, target, rfl, link, behind⟩
    · rw [walk_plain inside opens.plain, free]
    · have fewer_lt := parent_links_le opens.parent_eq
      rw [walk_link inside opens.plain link, List.append_nil]
      exact induction fewer fewer_lt behind

end

/-- A path has a place if it has a directory. -/
theorem place_eq_ok_iff
    {tree : FileTree}
    {path : Path}
    {directory : Location}
    {name? : Option String} :
    tree.place path = .ok (directory, name?) ↔
      (∃ left,
        tree.parent linkLimit path tree.workingDirectory =
          .ok (left, directory)) ∧
        name? = entryName? path := by
  rw [place]
  cases tree.parent linkLimit path tree.workingDirectory with
  | error error => simp [Except.map]
  | ok found => simp [Except.map, Prod.ext_iff, eq_comm]

theorem place_eq_error_iff
    {tree : FileTree}
    {path : Path}
    {error : OsError} :
    tree.place path = .error error ↔
      tree.parent linkLimit path tree.workingDirectory = .error error := by
  rw [place]
  cases tree.parent linkLimit path tree.workingDirectory <;>
    simp [Except.map]

/-! ## Operations with one path -/

section

variable
    {tree : FileTree}
    {path : String}

theorem status_of_check_error
    {error : IoError}
    (refused : Path.check path = .error error) :
    tree.status path = .error error := by
  rw [status, refused]
  rfl

theorem status_of_walk_error
    {checked : Path}
    {error : OsError}
    (isPath : Path.check path = .ok checked)
    (failed :
      tree.walk linkLimit checked.steps
          (checked.start tree.workingDirectory) =
        .error error) :
    tree.status path = .error (.os error) := by
  rw [status, isPath]
  dsimp only [bind, Except.bind]
  rw [locate, failed]
  rfl

/-- What has a status stands where the path leads, link by link. -/
theorem exists_walk_of_status
    {entry : Entry}
    (found : tree.status path = .ok entry) :
    ∃ checked left reached,
      Path.check path = .ok checked ∧
        tree.walk linkLimit checked.steps
            (checked.start tree.workingDirectory) =
          .ok (left, reached) ∧
        tree.find? reached = some entry := by
  rw [status, bind_eq_ok_iff] at found
  rcases found with ⟨checked, isPath, found⟩
  rw [bind_eq_ok_iff] at found
  rcases found with ⟨location, located, found⟩
  rw [mapError_eq_ok_iff, locate] at located
  rcases walked :
      tree.walk linkLimit checked.steps
        (checked.start tree.workingDirectory) with
    error | ⟨left, reached⟩
  · rw [walked] at located
    cases located
  · rw [walked] at located
    cases located
    split at found
    · next there =>
      cases found
      exact ⟨checked, left, reached, isPath, walked, there⟩
    · cases found

theorem not_namesFile_of_status_error
    {error : IoError}
    (failed : tree.status path = .error error) :
    ¬tree.NamesFile path := by
  rintro ⟨entry, found, -⟩
  rw [failed] at found
  cases found

/-- A file in the working directory is named by its name. -/
theorem namesFile_of_name
    {contents : ByteArray}
    {changed : Int}
    (isPath :
      Path.check path =
        .ok { isAbsolute := false, names := [path], endsInSlash := false })
    (inside : tree.isDirectory tree.workingDirectory)
    (plain : IsPlain path)
    (found :
      tree.find? (path :: tree.workingDirectory) =
        some (.file contents changed)) :
    tree.NamesFile path := by
  have taken := Path.eq_ofText_of_check isPath
  have located := locate_name inside plain found
  rw [taken] at isPath located
  exact ⟨_, status_of_locate isPath located found, nofun⟩

/-- A path that cannot be taken to its directory because something is missing
names nothing. -/
theorem LacksDirectory.status_eq (lacks : tree.LacksDirectory path) :
    tree.status path = .error (.os .noSuchFile) := by
  rw [LacksDirectory, bind_eq_error_iff] at lacks
  rcases lacks with refused | ⟨checked, isPath, missing⟩
  · exact status_of_check_error refused
  · rw [mapError_os_eq_error_iff, place_eq_error_iff] at missing
    exact status_of_walk_error isPath (walk_of_parent_missing missing)

/-- A path lacks a directory if its first name is missing and further names
follow. -/
theorem lacksDirectory_of_first_missing
    {name : String}
    {rest : List String}
    (isPath : Path.check path = .ok (Path.ofText path))
    (names : (Path.ofText path).names.dropLast = name :: rest)
    (inside :
      tree.isDirectory ((Path.ofText path).start tree.workingDirectory))
    (plain : IsPlain name)
    (absent :
      tree.find? (name :: (Path.ofText path).start tree.workingDirectory) =
        none) :
    tree.LacksDirectory path := by
  have walked :
      tree.walk linkLimit (Path.ofText path).names.dropLast
          ((Path.ofText path).start tree.workingDirectory) =
        .error .noSuchFile := by
    rw [names, walk_plain inside plain, absent]
  rw [LacksDirectory, isPath]
  refine mapError_os_eq_error_iff.mpr (place_eq_error_iff.mpr ?_)
  rw [parent, walked]

/-- A place to write at that is not found because something is missing means
that the path names nothing. -/
theorem status_of_writingPlace_missing
    {checked : Path}
    (isPath : Path.check path = .ok checked)
    (missing :
      (tree.writingPlace checked).mapError IoError.os =
        .error (.os .noSuchFile)) :
    tree.status path = .error (.os .noSuchFile) := by
  rw [mapError_os_eq_error_iff] at missing
  exact status_of_walk_error isPath (walk_of_writingPlaceFrom_missing missing)

/-- A path that names a file opens it for writing, and no new one. -/
theorem NamesFile.find?_ne_none
    {place : Location}
    (named : tree.NamesFile path)
    (isPath : Path.check path = .ok (Path.ofText path))
    (opened : tree.writingPlace (Path.ofText path) = .ok place) :
    tree.find? place ≠ none := by
  intro free
  exact not_namesFile_of_status_error
    (status_of_walk_error isPath (walk_of_writingPlaceFrom_free opened free))
    named

theorem status_of_create_missing
    {time : Int}
    (missing : tree.create time path = .error (.os .noSuchFile)) :
    tree.status path = .error (.os .noSuchFile) := by
  rw [create, bind_eq_error_iff] at missing
  rcases missing with refused | ⟨checked, isPath, missing⟩
  · exact status_of_check_error refused
  · rw [bind_eq_error_iff] at missing
    rcases missing with unopened | ⟨place, -, missing⟩
    · exact status_of_writingPlace_missing isPath unopened
    · split at missing
      · cases missing
      · cases missing

theorem status_of_replace_missing
    {time : Int}
    {text : String}
    (missing : tree.replace time path text = .error (.os .noSuchFile)) :
    tree.status path = .error (.os .noSuchFile) := by
  rw [replace, bind_eq_error_iff] at missing
  rcases missing with refused | ⟨checked, isPath, missing⟩
  · exact status_of_check_error refused
  · rw [bind_eq_error_iff] at missing
    rcases missing with unopened | ⟨place, -, missing⟩
    · exact status_of_writingPlace_missing isPath unopened
    · split at missing
      · split at missing
        · cases missing
        · cases missing
      · cases missing

/-- If the last name of a path is missing, the path names nothing. -/
theorem status_of_name_missing
    {checked : Path}
    {directory : Location}
    {name : String}
    (isPath : Path.check path = .ok checked)
    (found : tree.place checked = .ok (directory, some name))
    (short : ¬Path.greatestNameLength < name.utf8ByteSize)
    (absent : tree.find? (name :: directory) = none) :
    tree.status path = .error (.os .noSuchFile) := by
  rcases place_eq_ok_iff.mp found with ⟨⟨left, parent⟩, named⟩
  exact status_of_walk_error isPath
    (walk_of_name_missing parent named.symm short absent)

theorem status_of_remove_missing
    (missing : tree.remove path = .error (.os .noSuchFile)) :
    tree.status path = .error (.os .noSuchFile) := by
  rw [remove, bind_eq_error_iff] at missing
  rcases missing with refused | ⟨checked, isPath, missing⟩
  · exact status_of_check_error refused
  rw [bind_eq_error_iff] at missing
  rcases missing with unplaced | ⟨⟨directory, name?⟩, placed, missing⟩
  · refine LacksDirectory.status_eq ?_
    rw [LacksDirectory, isPath]
    exact unplaced
  rw [mapError_eq_ok_iff] at placed
  cases name? with
  | none => cases missing
  | some name =>
    dsimp only at missing
    split at missing
    · cases missing
    · next short =>
      split at missing
      · next absent => exact status_of_name_missing isPath placed short absent
      · cases missing
      · split at missing
        · cases missing
        · cases missing

/-! ## Giving a file another path -/

theorem replacementError?_ne_noSuchFile
    (tree : FileTree)
    (target : Location)
    (moving : Entry) :
    tree.replacementError? target moving ≠ some .noSuchFile := by
  rw [replacementError?]
  split
  · exact nofun
  · repeat' split
    all_goals exact nofun

theorem find?_of_moveBetween_missing
    {checked newChecked : Path}
    {directory newDirectory : Location}
    {name newName : String}
    (missing :
      tree.moveBetween checked newChecked directory newDirectory name
          newName =
        .error .noSuchFile) :
    ¬Path.greatestNameLength < name.utf8ByteSize ∧
      tree.find? (name :: directory) = none := by
  rw [moveBetween] at missing
  split at missing
  · cases missing
  · next short =>
    split at missing
    · next absent => exact ⟨short, absent⟩
    · iterate 5
        split at missing
        · cases missing
      split at missing
      · next fits =>
        cases missing
        exact (replacementError?_ne_noSuchFile _ _ _ fits).elim
      · cases missing

/-- A renaming fails because something is missing only if its old path names
nothing, or its new path lacks a directory. -/
theorem status_of_rename_missing
    {time : Int}
    {newPath : String}
    (missing : tree.rename time path newPath = .error (.os .noSuchFile)) :
    tree.status path = .error (.os .noSuchFile) ∨
      tree.LacksDirectory newPath := by
  rw [rename_eq] at missing
  replace missing : tree.moveFor path newPath = .error (.os .noSuchFile) := by
    cases sought : tree.moveFor path newPath with
    | error error =>
      rw [sought] at missing
      cases missing
      rfl
    | ok move =>
      rw [sought] at missing
      cases missing
  rw [moveFor] at missing
  split at missing
  · cases missing
  rw [bind_eq_error_iff] at missing
  rcases missing with refused | ⟨checked, isPath, missing⟩
  · exact .inl (status_of_check_error refused)
  rw [bind_eq_error_iff] at missing
  rcases missing with unplaced | ⟨⟨directory, name?⟩, placed, missing⟩
  · refine .inl (LacksDirectory.status_eq ?_)
    rw [LacksDirectory, isPath]
    exact unplaced
  rw [bind_eq_error_iff] at missing
  rcases missing with refused | ⟨newChecked, newIsPath, missing⟩
  · right
    rw [LacksDirectory, refused]
    rfl
  rw [bind_eq_error_iff] at missing
  rcases missing with unplaced | ⟨⟨newDirectory, newName?⟩, -, missing⟩
  · right
    rw [LacksDirectory, newIsPath]
    exact unplaced
  rw [mapError_eq_ok_iff] at placed
  dsimp only at missing
  split at missing
  · cases missing
  split at missing
  · rw [mapError_os_eq_error_iff] at missing
    rcases find?_of_moveBetween_missing missing with ⟨short, absent⟩
    exact .inl (status_of_name_missing isPath placed short absent)
  · cases missing

/-- A path without names starts at the root. -/
theorem start_of_nameless
    {text : String}
    (filled : text ≠ "")
    (nameless : (Path.ofText text).names = [])
    (directory : Location) :
    (Path.ofText text).start directory = [] := by
  have absolute : text.toList.head? = some '/' := by
    simp only [Path.ofText, List.map_eq_nil_iff] at nameless
    cases characters : text.toList with
    | nil => exact (filled (String.toList_eq_nil_iff.mp characters)).elim
    | cons first rest =>
      by_cases slash : first = '/'
      · rw [slash]
        rfl
      · rw [characters, Text.cutAt, if_neg slash] at nameless
        split at nameless <;> simp at nameless
  rw [Path.start, Path.ofText]
  simp [absolute]

/-- The path of a file has a place. -/
theorem NamesFile.exists_place (named : tree.NamesFile path) :
    ∃ checked place,
      Path.check path = .ok checked ∧ tree.place checked = .ok place := by
  rcases named with ⟨entry, found, -⟩
  rcases exists_walk_of_status found with
    ⟨checked, left, reached, isPath, walked, -⟩
  rcases exists_steps_eq checked with ⟨back, steps⟩
  rw [steps, walk_append] at walked
  split at walked
  · cases walked
  · next left' between gone =>
    -- Names go on only from a directory, and a path without names is the root.
    have inside : tree.isDirectory between := by
      cases back with
      | cons name back =>
        apply Classical.byContradiction
        intro outside
        rw [walk_outside outside] at walked
        cases walked
      | nil =>
        have nameless : checked.names = [] := by
          have lengths := congrArg List.length steps
          rw [Path.steps] at lengths
          split at lengths
          · simp at lengths
            omega
          · simp at lengths
            exact List.length_eq_zero_iff.mp (by omega)
        have filled : path ≠ "" := by
          rintro rfl
          rw [Path.check] at isPath
          cases isPath
        cases Path.eq_ofText_of_check isPath
        rw [start_of_nameless filled nameless, nameless] at gone
        rw [List.dropLast_nil, walk] at gone
        cases gone
        rfl
    have parent := parent_eq_ok_iff.mpr ⟨gone, inside⟩
    exact ⟨checked, _, isPath,
      place_eq_ok_iff.mpr ⟨⟨left', parent⟩, rfl⟩⟩

/-- A renaming to a path that lacks a directory fails for this, whatever file
it is to move. -/
theorem rename_of_lacksDirectory
    {newPath : String}
    (named : tree.NamesFile path)
    (lacks : tree.LacksDirectory newPath)
    (time : Int) :
    tree.rename time path newPath = .error (.os .noSuchFile) := by
  rcases named.exists_place with ⟨checked, place, isPath, placed⟩
  have clean : '\x00' ∉ path.toList := by
    intro zero
    rw [Path.check, if_pos zero] at isPath
    cases isPath
  have newClean : '\x00' ∉ newPath.toList := by
    intro zero
    rw [LacksDirectory, Path.check, if_pos zero] at lacks
    cases lacks
  have neither : ¬('\x00' ∈ path.toList ∨ '\x00' ∈ newPath.toList) := by
    rintro (zero | zero)
    · exact clean zero
    · exact newClean zero
  rw [rename_eq, moveFor, if_neg neither, isPath]
  dsimp only [bind, Except.bind]
  rw [placed]
  dsimp only [mapError_ok]
  rw [LacksDirectory, bind_eq_error_iff] at lacks
  rcases lacks with refused | ⟨newChecked, newIsPath, missing⟩
  · rw [refused]
    rfl
  · rw [newIsPath]
    dsimp only
    rw [missing]
    rfl

end

end Scenario.FileTree
