import Scenario.Proofs.FileTree.Ways

/-!
# Where a file is written

A path that a file is opened for writing under leads over directories and links
to a place that holds neither.  To write a file there leaves the directories
and links alone, so the same path leads to the file afterwards, and everything
else in the tree is as it was.
-/

namespace Scenario.FileTree

/-! ## Opening a file for writing -/

/-- The place is found link by link. -/
theorem writingPlaceFrom_eq
    (tree : FileTree)
    (links : Nat)
    (path : Path)
    (place : Location) :
    tree.writingPlaceFrom links path place =
      match tree.parent links path place with
      | .error error => .error error
      | .ok (left, directory) =>
        match entryName? path with
        | none => .error .isDirectory
        | some name =>
          if path.endsInSlash then
            .error .isDirectory
          else if Path.greatestNameLength < name.utf8ByteSize then
            .error .nameTooLong
          else
            match tree.find? (name :: directory) with
            | some .directory => .error .isDirectory
            | some (.link target) =>
              match left with
              | 0 => .error .tooManyLinks
              | left + 1 =>
                tree.writingPlaceFrom left (Path.ofText target) directory
            | _ => .ok (name :: directory) := by
  rw [writingPlaceFrom]
  split
  · next error found => rw [found]
  · next left directory found =>
    simp only [found]
    cases entryName? path with
    | none => rfl
    | some name =>
      dsimp only
      split
      · rfl
      · split
        · rfl
        · cases tree.find? (name :: directory) with
          | none => rfl
          | some entry =>
            cases entry with
            | link target => cases left <;> rfl
            | _ => rfl

/-- A place that a file can be written at: an inner one, where no directory and
no link stands. -/
structure TakesFile (tree : FileTree) (place : Location) : Prop where
  inner : place ≠ []
  noDirectory : tree.find? place ≠ some .directory
  noLink : ∀ target, tree.find? place ≠ some (.link target)

theorem takesFile_of_file
    {tree : FileTree}
    {place : Location}
    (inner : place ≠ [])
    {contents : ByteArray}
    {changed : Int}
    (found : tree.find? place = some (.file contents changed)) :
    tree.TakesFile place where
  inner := inner
  noDirectory := by simp [found]
  noLink := by simp [found]

/-- What can be written, exists, and is no device, is a file. -/
theorem TakesFile.exists_file
    {tree : FileTree}
    {place : Location}
    (takes : tree.TakesFile place)
    (noDevice : ∀ changed, tree.find? place ≠ some (.fullDevice changed))
    (taken : tree.find? place ≠ none) :
    ∃ contents changed, tree.find? place = some (.file contents changed) := by
  rcases Option.ne_none_iff_exists'.mp taken with ⟨entry, found⟩
  cases entry with
  | directory => exact (takes.noDirectory found).elim
  | file contents changed => exact ⟨contents, changed, found⟩
  | link target => exact (takes.noLink target found).elim
  | fullDevice changed => exact (noDevice changed found).elim

/-- The last name of a path is plain, or a link that is followed from its
directory. -/
structure Opens
    (tree : FileTree)
    (links : Nat)
    (path : Path)
    (place found : Location)
    (left : Nat)
    (directory : Location)
    (name : String) : Prop where
  parent_eq : tree.parent links path place = .ok (left, directory)
  steps_eq : path.steps = path.names.dropLast ++ [name]
  plain : IsPlain name
  opened :
    tree.TakesFile (name :: directory) ∧ found = name :: directory ∨
      ∃ fewer target,
        left = fewer + 1 ∧
          tree.find? (name :: directory) = some (.link target) ∧
          tree.writingPlaceFrom fewer (Path.ofText target) directory =
            .ok found

theorem entryName?_eq_some_iff {path : Path} {name : String} :
    entryName? path = some name ↔
      path.names.getLast? = some name ∧ name ≠ "." ∧ name ≠ ".." := by
  simp [entryName?, Option.filter_eq_some_iff]

/-- The last name of a path is followed behind all others.  A slash behind it
asks for a directory. -/
theorem steps_eq_of_entryName?
    {path : Path}
    {name : String}
    (named : entryName? path = some name) :
    path.steps =
      path.names.dropLast ++ name :: if path.endsInSlash then ["."] else [] := by
  rw [entryName?_eq_some_iff] at named
  rcases List.getLast?_eq_some_iff.mp named.1 with ⟨front, names⟩
  rw [Path.steps, names, List.dropLast_concat]
  by_cases slash : path.endsInSlash
  · rw [if_pos slash, if_pos slash, List.append_assoc]
    rfl
  · rw [if_neg slash, if_neg slash]

theorem isPlain_of_entryName?
    {path : Path}
    {name : String}
    (named : entryName? path = some name)
    (short : ¬Path.greatestNameLength < name.utf8ByteSize) :
    IsPlain name where
  ne_dot := (entryName?_eq_some_iff.mp named).2.1
  ne_dots := (entryName?_eq_some_iff.mp named).2.2
  length_le := Nat.not_lt.mp short

theorem entryName?_of_steps_eq
    {path : Path}
    {name : String}
    (steps : path.steps = path.names.dropLast ++ [name])
    (plain : IsPlain name) :
    entryName? path = some name ∧ ¬path.endsInSlash := by
  by_cases slash : path.endsInSlash
  · rw [Path.steps, if_pos slash] at steps
    have last := congrArg List.getLast? steps
    rw [List.getLast?_concat, List.getLast?_concat] at last
    exact (plain.ne_dot (Option.some.inj last).symm).elim
  · rw [Path.steps, if_neg slash] at steps
    have last : path.names.getLast? = some name := by
      rw [steps]
      exact List.getLast?_concat
    exact ⟨entryName?_eq_some_iff.mpr ⟨last, plain.ne_dot, plain.ne_dots⟩,
      slash⟩

section

variable
    {tree : FileTree}
    {name : String}
    (inside : tree.isDirectory tree.workingDirectory)
    (plain : IsPlain name)

include inside plain

/-- A name by itself leads to the file that has it in the working directory. -/
theorem locate_name
    {contents : ByteArray}
    {changed : Int}
    (found :
      tree.find? (name :: tree.workingDirectory) =
        some (.file contents changed)) :
    tree.locate { isAbsolute := false, names := [name], endsInSlash := false } =
      .ok (name :: tree.workingDirectory) := by
  have walked :
      tree.walk linkLimit [name] tree.workingDirectory =
        tree.walk linkLimit [] (name :: tree.workingDirectory) :=
    walk_entry inside plain found nofun
  rw [walk] at walked
  exact congrArg (Except.map Prod.snd) walked

end

section

variable
    {tree : FileTree}
    {links : Nat}
    {path : Path}
    {place found : Location}

theorem exists_opens
    (opened : tree.writingPlaceFrom links path place = .ok found) :
    ∃ left directory name,
      tree.Opens links path place found left directory name := by
  rw [writingPlaceFrom_eq] at opened
  split at opened
  · cases opened
  · next left directory parent =>
    split at opened
    · cases opened
    · next name named =>
      split at opened
      · cases opened
      · next noSlash =>
        split at opened
        · cases opened
        · next short =>
          refine ⟨left, directory, name, {
            parent_eq := parent
            steps_eq := ?_
            plain := isPlain_of_entryName? named short
            opened := ?_ }⟩
          · rw [steps_eq_of_entryName? named, if_neg noSlash]
          · split at opened
            · cases opened
            · next target there =>
              split at opened
              · cases opened
              · next fewer => exact .inr ⟨fewer, target, rfl, there, opened⟩
            · next noDirectory noLink =>
              cases opened
              exact .inl ⟨⟨by simp, noDirectory, noLink⟩, rfl⟩

/-- The last name of a path says where a file is opened for writing. -/
theorem Opens.writingPlaceFrom_eq
    {left : Nat}
    {directory : Location}
    {name : String}
    (opens : tree.Opens links path place found left directory name) :
    tree.writingPlaceFrom links path place = .ok found := by
  rcases entryName?_of_steps_eq opens.steps_eq opens.plain with
    ⟨named, noSlash⟩
  rw [FileTree.writingPlaceFrom_eq, opens.parent_eq]
  dsimp only
  rw [named]
  dsimp only
  rw [if_neg noSlash, if_neg (Nat.not_lt.mpr opens.plain.length_le)]
  rcases opens.opened with ⟨takes, rfl⟩ | ⟨fewer, target, rfl, link, behind⟩
  · rcases there : tree.find? (name :: directory) with _ | entry
    · rfl
    · cases entry with
      | directory => exact (takes.noDirectory there).elim
      | link target => exact (takes.noLink target there).elim
      | _ => rfl
  · rw [link]
    exact behind

/-- A file that is opened for writing is one that can be written. -/
theorem takesFile_of_writingPlaceFrom
    (opened : tree.writingPlaceFrom links path place = .ok found) :
    tree.TakesFile found := by
  induction links using Nat.strongRecOn generalizing path place with
  | ind links induction =>
    rcases exists_opens opened with ⟨left, directory, name, opens⟩
    rcases opens.opened with ⟨takes, rfl⟩ | ⟨fewer, target, rfl, -, behind⟩
    · exact takes
    · have fewer_lt := parent_links_le opens.parent_eq
      exact induction fewer fewer_lt behind

/-- Once something that is no link stands where a path opens a file for
writing, the path leads there. -/
theorem KeepsWays.walk_of_writingPlaceFrom
    {other : FileTree}
    (keeps : tree.KeepsWays other)
    (opened : tree.writingPlaceFrom links path place = .ok found)
    {entry : Entry}
    (there : other.find? found = some entry)
    (noLink : ∀ target, entry ≠ .link target) :
    ∃ left,
      other.walk links path.steps (path.start place) = .ok (left, found) := by
  induction links using Nat.strongRecOn generalizing path place with
  | ind links induction =>
    rcases exists_opens opened with ⟨left, directory, name, opens⟩
    rcases parent_eq_ok_iff.mp opens.parent_eq with ⟨walked, inside⟩
    rw [opens.steps_eq, walk_append, keeps.walk_eq walked inside]
    dsimp only
    rcases opens.opened with ⟨takes, rfl⟩ | ⟨fewer, target, rfl, link, behind⟩
    · refine ⟨left, ?_⟩
      rw [walk_entry (keeps.isDirectory inside) opens.plain there noLink, walk]
    · have fewer_lt := parent_links_le opens.parent_eq
      rw [walk_link (keeps.isDirectory inside) opens.plain
        (keeps.link _ _ link), List.append_nil]
      exact induction fewer fewer_lt behind

/-- A path opens a file for writing in the other tree too, as long as it can be
written there. -/
theorem KeepsWays.writingPlaceFrom_eq
    {other : FileTree}
    (keeps : tree.KeepsWays other)
    (opened : tree.writingPlaceFrom links path place = .ok found)
    (takes : other.TakesFile found) :
    other.writingPlaceFrom links path place = .ok found := by
  induction links using Nat.strongRecOn generalizing path place with
  | ind links induction =>
    rcases exists_opens opened with ⟨left, directory, name, opens⟩
    rcases parent_eq_ok_iff.mp opens.parent_eq with ⟨walked, inside⟩
    have kept : other.Opens links path place found left directory name :=
      { parent_eq :=
          parent_eq_ok_iff.mpr
            ⟨keeps.walk_eq walked inside, keeps.isDirectory inside⟩
        steps_eq := opens.steps_eq
        plain := opens.plain
        opened := by
          rcases opens.opened with
            ⟨-, rfl⟩ | ⟨fewer, target, rfl, link, behind⟩
          · exact .inl ⟨takes, rfl⟩
          · have fewer_lt := parent_links_le opens.parent_eq
            exact .inr ⟨fewer, target, rfl, keeps.link _ _ link,
              induction fewer fewer_lt behind⟩ }
    exact kept.writingPlaceFrom_eq

end

/-- A name by itself is looked up in the directory that it is seen from. -/
theorem opens_name
    {tree : FileTree}
    {links : Nat}
    {place found : Location}
    {name : String}
    (inside : tree.isDirectory place)
    (plain : IsPlain name)
    (opened :
      tree.TakesFile (name :: place) ∧ found = name :: place ∨
        ∃ fewer target,
          links = fewer + 1 ∧
            tree.find? (name :: place) = some (.link target) ∧
            tree.writingPlaceFrom fewer (Path.ofText target) place =
              .ok found) :
    tree.Opens links
      { isAbsolute := false, names := [name], endsInSlash := false }
      place found links place name where
  parent_eq := parent_eq_ok_iff.mpr ⟨walk.eq_1 .., inside⟩
  steps_eq := rfl
  plain := plain
  opened := opened

/-! ## What writing a file leaves -/

/-- The two trees agree everywhere but at one place. -/
structure ChangesOnly
    (before after : FileTree)
    (place : Location) : Prop where
  others :
    ∀ location, location ≠ place →
      after.find? location = before.find? location
  workingDirectory_eq : after.workingDirectory = before.workingDirectory
  mounts_eq : after.mounts = before.mounts

theorem changesOnly_refl
    (tree : FileTree)
    (place : Location) :
    tree.ChangesOnly tree place where
  others := fun _ _ => rfl
  workingDirectory_eq := rfl
  mounts_eq := rfl

theorem changesOnly_insert
    (tree : FileTree)
    (place : Location)
    (entry : Entry) :
    tree.ChangesOnly (tree.insert place entry) place where
  others := fun _ different => find?_insert_of_ne tree different entry
  workingDirectory_eq := rfl
  mounts_eq := rfl

section

variable
    {tree : FileTree}
    {place : Location}
    (contents : ByteArray)
    (time : Int)

theorem TakesFile.keepsWays_insert (takes : tree.TakesFile place) :
    tree.KeepsWays (tree.insert place (.file contents time)) where
  directory := by
    intro location found
    rw [find?_insert_of_ne tree ?_ _, found]
    rintro rfl
    exact takes.noDirectory found
  link := by
    intro location target found
    rw [find?_insert_of_ne tree ?_ _, found]
    rintro rfl
    exact takes.noLink target found

/-- A file that is written under a path is found under it. -/
theorem locate_insert
    {path : Path}
    (opened : tree.writingPlace path = .ok place) :
    (tree.insert place (.file contents time)).locate path = .ok place := by
  have takes := takesFile_of_writingPlaceFrom opened
  rcases (takes.keepsWays_insert contents time).walk_of_writingPlaceFrom
      opened (find?_insert_self tree takes.inner _) nofun with
    ⟨left, walked⟩
  have here :
      (tree.insert place (.file contents time)).workingDirectory =
        tree.workingDirectory :=
    rfl
  rw [locate, here, walked]
  rfl

end

/-- A file that exists is found under every path that opens it for writing. -/
theorem locate_of_writingPlace
    {tree : FileTree}
    {path : Path}
    {place : Location}
    (opened : tree.writingPlace path = .ok place)
    (taken : tree.find? place ≠ none) :
    tree.locate path = .ok place := by
  have takes := takesFile_of_writingPlaceFrom opened
  have keeps : tree.KeepsWays tree :=
    { directory := fun _ => id
      link := fun _ _ => id }
  rcases Option.ne_none_iff_exists'.mp taken with ⟨entry, there⟩
  have noLink : ∀ target, entry ≠ .link target := by
    rintro target rfl
    exact takes.noLink target there
  rcases keeps.walk_of_writingPlaceFrom opened there noLink with ⟨left, walked⟩
  rw [locate, walked]
  rfl

/-- The place at which a text is written under a path.  A device that is always
full takes no text. -/
def placeFor
    (tree : FileTree)
    (path text : String) :
    Except IoError Location := do
  let path ← Path.check path
  let place ← (tree.writingPlace path).mapError .os
  match tree.find? place with
  | some (.fullDevice _) =>
    throw (.os (if text.isEmpty then .invalidArgument else .noSpace))
  | _ => return place

/-- To make a text the contents of a file is to write a new file in its
place. -/
theorem replace_eq
    (tree : FileTree)
    (time : Int)
    (path text : String) :
    tree.replace time path text =
      (tree.placeFor path text).map fun place =>
        tree.insert place (.file text.toUTF8 time) := by
  unfold replace placeFor
  rcases Path.check path with error | path
  · rfl
  dsimp only [bind, Except.bind]
  rcases tree.writingPlace path with error | place
  · rfl
  dsimp only [mapError_ok]
  rcases tree.find? place with _ | entry
  · rfl
  · cases entry <;> rfl

/-- Texts that are not empty are all written at the same place. -/
theorem placeFor_eq_of_not_isEmpty
    (tree : FileTree)
    (path : String)
    {text other : String}
    (filled : ¬text.isEmpty)
    (otherFilled : ¬other.isEmpty) :
    tree.placeFor path text = tree.placeFor path other := by
  unfold placeFor
  rw [if_neg filled, if_neg otherFilled]

theorem placeFor_eq_ok_iff
    {tree : FileTree}
    {path text : String}
    {place : Location} :
    tree.placeFor path text = .ok place ↔
      Path.check path = .ok (Path.ofText path) ∧
        tree.writingPlace (Path.ofText path) = .ok place ∧
        ∀ changed, tree.find? place ≠ some (.fullDevice changed) := by
  constructor
  · intro opened
    rw [placeFor, bind_eq_ok_iff] at opened
    rcases opened with ⟨checked, isPath, opened⟩
    cases Path.eq_ofText_of_check isPath
    rw [bind_eq_ok_iff] at opened
    rcases opened with ⟨found, leads, opened⟩
    rw [mapError_eq_ok_iff] at leads
    split at opened
    · cases opened
    · next noDevice =>
      cases opened
      exact ⟨isPath, leads, noDevice⟩
  · rintro ⟨isPath, leads, noDevice⟩
    rw [placeFor, bind_eq_ok_iff]
    refine ⟨_, isPath, ?_⟩
    rw [bind_eq_ok_iff]
    refine ⟨place, mapError_eq_ok_iff.mpr leads, ?_⟩
    split
    · next changed found => exact (noDevice changed found).elim
    · rfl

/-- Once a file stands where a path has a place for a text, the path has the
same place for any other one. -/
theorem placeFor_insert
    {tree : FileTree}
    {path text : String}
    {place : Location}
    (opened : tree.placeFor path text = .ok place)
    (contents : ByteArray)
    (changed : Int)
    (other : String) :
    (tree.insert place (.file contents changed)).placeFor path other =
      .ok place := by
  rcases placeFor_eq_ok_iff.mp opened with ⟨isPath, leads, -⟩
  have takes := takesFile_of_writingPlaceFrom leads
  have there := find?_insert_self tree takes.inner (.file contents changed)
  have again :
      (tree.insert place (.file contents changed)).writingPlace
          (Path.ofText path) =
        .ok place :=
    (takes.keepsWays_insert contents changed).writingPlaceFrom_eq leads
      (takesFile_of_file takes.inner there)
  refine placeFor_eq_ok_iff.mpr ⟨isPath, again, fun time device => ?_⟩
  rw [there] at device
  cases device

theorem replace_eq_ok_iff
    {tree after : FileTree}
    {time : Int}
    {path text : String} :
    tree.replace time path text = .ok after ↔
      ∃ place,
        tree.placeFor path text = .ok place ∧
          after = tree.insert place (.file text.toUTF8 time) := by
  rw [replace_eq]
  rcases tree.placeFor path text with error | place
  · simp [Except.map]
  · simp [Except.map, eq_comm]

/-- A file is created where its path opens it for writing, unless something
stands there. -/
theorem create_eq_ok_iff
    {tree after : FileTree}
    {time : Int}
    {path : String} :
    tree.create time path = .ok after ↔
      ∃ place,
        Path.check path = .ok (Path.ofText path) ∧
          tree.writingPlace (Path.ofText path) = .ok place ∧
          after =
            if tree.find? place = none then
              tree.insert place (.file .empty time)
            else
              tree := by
  constructor
  · intro created
    rw [create, bind_eq_ok_iff] at created
    rcases created with ⟨checked, isPath, created⟩
    cases Path.eq_ofText_of_check isPath
    rw [bind_eq_ok_iff] at created
    rcases created with ⟨place, leads, created⟩
    rw [mapError_eq_ok_iff] at leads
    refine ⟨place, isPath, leads, ?_⟩
    split at created
    · next free =>
      rw [if_pos free]
      exact (Except.ok.inj created).symm
    · next entry taken =>
      rw [taken, if_neg nofun]
      exact (Except.ok.inj created).symm
  · rintro ⟨place, isPath, leads, rfl⟩
    rw [create, bind_eq_ok_iff]
    refine ⟨_, isPath, ?_⟩
    rw [bind_eq_ok_iff]
    refine ⟨place, mapError_eq_ok_iff.mpr leads, ?_⟩
    cases tree.find? place <;> rfl

/-- What stands at a place is the status under every path that leads there. -/
theorem status_of_locate
    {tree : FileTree}
    {path : String}
    {place : Location}
    {entry : Entry}
    (isPath : Path.check path = .ok (Path.ofText path))
    (located : tree.locate (Path.ofText path) = .ok place)
    (holds : tree.find? place = some entry) :
    tree.status path = .ok entry := by
  simp only [status, isPath, located, holds, bind, Except.bind, mapError_ok,
    pure, Except.pure]

/-- The text of a file is read under every path that leads to it. -/
theorem contents_of_locate
    {tree : FileTree}
    {path text : String}
    {place : Location}
    {changed : Int}
    (isPath : Path.check path = .ok (Path.ofText path))
    (located : tree.locate (Path.ofText path) = .ok place)
    (holds : tree.find? place = some (.file text.toUTF8 changed)) :
    tree.contents path = .ok text := by
  have read : String.fromUTF8? text.toUTF8 = some text := by
    rw [String.fromUTF8?, String.toUTF8_eq_toByteArray,
      dif_pos text.isValidUTF8]
    rfl
  simp only [contents, status_of_locate isPath located holds, bind,
    Except.bind, read, pure, Except.pure]

/-- A text has been written to the file that a path leads to, and nothing else
has changed. -/
structure Written
    (before after : FileTree)
    (path text : String)
    (place : Location) : Prop where
  /-- There was nothing at the place of the file, or a file. -/
  free :
    before.find? place = none ∨
      ∃ contents changed, before.find? place = some (.file contents changed)
  locate_eq : after.locate (Path.ofText path) = .ok place
  contents_eq : after.contents path = .ok text
  holds : ∃ changed, after.find? place = some (.file text.toUTF8 changed)
  others :
    ∀ location, location ≠ place →
      after.find? location = before.find? location
  workingDirectory_eq : after.workingDirectory = before.workingDirectory
  mounts_eq : after.mounts = before.mounts

/-- A text is written where its path has a place for it. -/
theorem written_insert
    {tree : FileTree}
    {path text : String}
    {place : Location}
    (opened : tree.placeFor path text = .ok place)
    (time : Int) :
    tree.Written (tree.insert place (.file text.toUTF8 time)) path text
      place := by
  rcases placeFor_eq_ok_iff.mp opened with ⟨isPath, leads, noDevice⟩
  have takes := takesFile_of_writingPlaceFrom leads
  have there := find?_insert_self tree takes.inner (.file text.toUTF8 time)
  have located := locate_insert text.toUTF8 time leads
  exact {
    free := by
      by_cases free : tree.find? place = none
      · exact .inl free
      · exact .inr (takes.exists_file noDevice free)
    locate_eq := located
    contents_eq := contents_of_locate isPath located there
    holds := ⟨time, there⟩
    others := fun location different => find?_insert_of_ne tree different _
    workingDirectory_eq := rfl
    mounts_eq := rfl }

theorem exists_written_of_replace
    {tree after : FileTree}
    {time : Int}
    {path text : String}
    (replaced : tree.replace time path text = .ok after) :
    ∃ place, tree.Written after path text place := by
  rcases replace_eq_ok_iff.mp replaced with ⟨place, opened, rfl⟩
  exact ⟨place, written_insert opened time⟩

end Scenario.FileTree
