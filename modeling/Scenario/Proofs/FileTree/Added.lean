import Scenario.Proofs.FileTree.Missing

/-!
# A file that is added

A path without an entry, under which a file can be created, is a place in the
tree that stays the same while the file is there: it can be written again and
again, and removed at last.  Removing it leaves the tree as it was before.
-/

namespace Scenario.FileTree

/-- Nothing has the path for its own.  A link at the end of the path would be
such an entry, even if it leads nowhere. -/
def LacksEntry (tree : FileTree) (path : String) : Prop :=
  ∀ checked directory name,
    Path.check path = .ok checked →
      tree.place checked = .ok (directory, some name) →
        tree.find? (name :: directory) = none

/-- The path names a free place in a directory, where a file can be made. -/
structure Vacant
    (tree : FileTree)
    (path : String)
    (directory : Location)
    (name : String) : Prop where
  isPath : Path.check path = .ok (Path.ofText path)
  placed : tree.place (Path.ofText path) = .ok (directory, some name)
  opened : tree.writingPlace (Path.ofText path) = .ok (name :: directory)
  plain : IsPlain name
  noSlash : ¬(Path.ofText path).endsInSlash
  free : tree.find? (name :: directory) = none

/-- A file with these bytes for contents has been added at a place that was
free, and the path leads there now.  Nothing else has changed. -/
structure Added
    (before after : FileTree)
    (path : String)
    (bytes : List UInt8)
    (place : Location) : Prop extends ChangesOnly before after place where
  free : before.find? place = none
  located : after.locate (Path.ofText path) = .ok place
  holds :
    ∃ contents changed,
      after.find? place = some (.file contents changed) ∧
        contents.data.toList = bytes

/-- Where nothing stands, nothing is erased. -/
theorem erase_of_free
    {tree : FileTree}
    {location : Location}
    (free : tree.find? location = none) :
    tree.erase location = tree := by
  have elsewhere : ∀ entry ∈ tree.entries, entry.1 != location := by
    intro entry member
    rw [find?] at free
    split at free
    · cases free
    · rw [Option.map_eq_none_iff, List.find?_eq_none] at free
      exact bne_iff_ne.mpr fun here => free entry member (beq_iff_eq.mpr here)
  rw [erase, List.filter_eq_self.mpr elsewhere]

/-- A path that is opened by way of a name which nothing has is vacant. -/
theorem Opens.vacant
    {tree : FileTree}
    {path : String}
    {found directory : Location}
    {left : Nat}
    {name : String}
    (opens :
      tree.Opens linkLimit (Path.ofText path) tree.workingDirectory found left
        directory name)
    (isPath : Path.check path = .ok (Path.ofText path))
    (free : tree.find? (name :: directory) = none) :
    tree.Vacant path directory name ∧ found = name :: directory := by
  rcases entryName?_of_steps_eq opens.steps_eq opens.plain with
    ⟨named, noSlash⟩
  have placed :
      tree.place (Path.ofText path) = .ok (directory, some name) :=
    place_eq_ok_iff.mpr ⟨⟨left, opens.parent_eq⟩, named.symm⟩
  -- A link at the end of the path would be its entry.
  have here : found = name :: directory := by
    rcases opens.opened with ⟨-, here⟩ | ⟨fewer, target, -, link, -⟩
    · exact here
    · rw [free] at link
      cases link
  subst here
  exact ⟨
    { isPath
      placed
      opened := opens.writingPlaceFrom_eq
      plain := opens.plain
      noSlash
      free },
    rfl⟩

theorem exists_vacant_of_create
    {tree after : FileTree}
    {time : Int}
    {path : String}
    (lacks : tree.LacksEntry path)
    (created : tree.create time path = .ok after) :
    ∃ directory name,
      tree.Vacant path directory name ∧
        after = tree.insert (name :: directory) (.file .empty time) := by
  rcases create_eq_ok_iff.mp created with ⟨place, isPath, opened, after_eq⟩
  rcases exists_opens opened with ⟨left, directory, name, opens⟩
  rcases entryName?_of_steps_eq opens.steps_eq opens.plain with ⟨named, -⟩
  have placed :
      tree.place (Path.ofText path) = .ok (directory, some name) :=
    place_eq_ok_iff.mpr ⟨⟨left, opens.parent_eq⟩, named.symm⟩
  rcases opens.vacant isPath (lacks _ _ _ isPath placed) with ⟨vacant, rfl⟩
  rw [if_pos vacant.free] at after_eq
  exact ⟨directory, name, vacant, after_eq⟩

/-- A name by itself that nothing has in the working directory is vacant. -/
theorem vacant_of_name
    {tree : FileTree}
    {name : String}
    (isPath :
      Path.check name =
        .ok { isAbsolute := false, names := [name], endsInSlash := false })
    (inside : tree.isDirectory tree.workingDirectory)
    (plain : IsPlain name)
    (free : tree.find? (name :: tree.workingDirectory) = none) :
    tree.Vacant name tree.workingDirectory name := by
  have takes : tree.TakesFile (name :: tree.workingDirectory) :=
    ⟨nofun, by simp [free], by simp [free]⟩
  have opens :
      tree.Opens linkLimit
        { isAbsolute := false, names := [name], endsInSlash := false }
        tree.workingDirectory (name :: tree.workingDirectory) linkLimit
        tree.workingDirectory name :=
    opens_name inside plain (.inl ⟨takes, rfl⟩)
  have taken := Path.eq_ofText_of_check isPath
  rw [taken] at isPath opens
  exact (opens.vacant isPath free).1

namespace Vacant

variable
    {tree : FileTree}
    {path : String}
    {directory : Location}
    {name : String}
    (vacant : tree.Vacant path directory name)
    (contents : ByteArray)
    (changed : Int)

include vacant

theorem path_ne_empty : path ≠ "" := by
  rintro rfl
  have isPath := vacant.isPath
  rw [Path.check] at isPath
  cases isPath

theorem takes : tree.TakesFile (name :: directory) :=
  takesFile_of_writingPlaceFrom vacant.opened

theorem lacksEntry : tree.LacksEntry path := by
  intro checked other found isPath placed
  cases vacant.isPath.symm.trans isPath
  cases vacant.placed.symm.trans placed
  exact vacant.free

/-- A file is created at the place. -/
theorem create_eq (time : Int) :
    tree.create time path =
      .ok (tree.insert (name :: directory) (.file .empty time)) := by
  rw [create_eq_ok_iff]
  exact ⟨_, vacant.isPath, vacant.opened, (if_pos vacant.free).symm⟩

/-- Every text has the place. -/
theorem placeFor_eq (text : String) :
    tree.placeFor path text = .ok (name :: directory) := by
  refine placeFor_eq_ok_iff.mpr ⟨vacant.isPath, vacant.opened, ?_⟩
  simp [vacant.free]

theorem status_insert :
    (tree.insert (name :: directory) (.file contents changed)).status path =
      .ok (.file contents changed) :=
  status_of_locate vacant.isPath
    (locate_insert contents changed vacant.opened)
    (find?_insert_self tree vacant.takes.inner _)

/-- The file is written again in the place that it has. -/
theorem replace_insert (time : Int) (text : String) :
    (tree.insert (name :: directory) (.file contents changed)).replace time
        path text =
      .ok (tree.insert (name :: directory) (.file text.toUTF8 time)) := by
  rw [replace_eq_ok_iff]
  exact ⟨name :: directory,
    placeFor_insert (vacant.placeFor_eq text) contents changed text,
    (insert_insert tree _ _ _).symm⟩

/-- To remove the file leaves the tree without it. -/
theorem remove_insert :
    (tree.insert (name :: directory) (.file contents changed)).remove path =
      .ok tree := by
  have there :=
    find?_insert_self tree vacant.takes.inner (.file contents changed)
  have placed :
      (tree.insert (name :: directory) (.file contents changed)).place
          (Path.ofText path) =
        .ok (directory, some name) := by
    rcases place_eq_ok_iff.mp vacant.placed with ⟨⟨left, parent⟩, named⟩
    rcases parent_eq_ok_iff.mp parent with ⟨walked, inside⟩
    have keeps := vacant.takes.keepsWays_insert contents changed
    have kept := parent_eq_ok_iff.mpr
      ⟨keeps.walk_eq walked inside, keeps.isDirectory inside⟩
    exact place_eq_ok_iff.mpr ⟨⟨left, kept⟩, named⟩
  rw [remove, vacant.isPath]
  dsimp only [bind, Except.bind]
  rw [placed]
  dsimp only [mapError_ok]
  rw [if_neg (Nat.not_lt.mpr vacant.plain.length_le), there]
  dsimp only
  rw [if_neg vacant.noSlash, erase_insert, erase_of_free vacant.free]
  rfl

theorem added :
    tree.Added (tree.insert (name :: directory) (.file contents changed)) path
      contents.data.toList (name :: directory) where
  toChangesOnly := changesOnly_insert tree (name :: directory) _
  free := vacant.free
  located := locate_insert contents changed vacant.opened
  holds :=
    ⟨contents, changed, find?_insert_self tree vacant.takes.inner _, rfl⟩

end Vacant

end Scenario.FileTree
