import Scenario.Proofs.FileTree.Place

/-!
# What a renaming moves

Before a renaming changes anything it has found out what it has to move, and
from where to where.  All that it asks of the tree, and every reason it may
fail for, comes before that.
-/

namespace Scenario.FileTree

/-- An entry on its way from one location to another. -/
structure Move where
  source : Location
  target : Location
  moving : Entry

/-- What has to be moved, given both paths and where they lead to.  Nothing is
moved if they name the same entry. -/
def moveBetween
    (tree : FileTree)
    (path newPath : Path)
    (directory newDirectory : Location)
    (name newName : String) :
    Except OsError (Option Move) :=
  if Path.greatestNameLength < name.utf8ByteSize then
    .error .nameTooLong
  else
    match tree.find? (name :: directory) with
    | none => .error .noSuchFile
    | some moving =>
      if Path.greatestNameLength < newName.utf8ByteSize then
        .error .nameTooLong
      else if
          ¬moving.isDirectory ∧ (path.endsInSlash ∨ newPath.endsInSlash) then
        .error .notDirectory
      else if newDirectory.IsWithin (name :: directory) then
        .error .invalidArgument
      else if directory.IsWithin (newName :: newDirectory) then
        .error .notEmpty
      else if name :: directory = newName :: newDirectory then
        .ok none
      else
        match tree.replacementError? (newName :: newDirectory) moving with
        | some error => .error error
        | none =>
          .ok (some {
            source := name :: directory
            target := newName :: newDirectory
            moving })

/-- What has to be moved for a path to get another one. -/
def moveFor
    (tree : FileTree)
    (path newPath : String) :
    Except IoError (Option Move) :=
  if '\x00' ∈ path.toList ∨ '\x00' ∈ newPath.toList then
    .error .zeroInPath
  else do
    let path ← Path.check path
    let (directory, name?) ← (tree.place path).mapError .os
    let newPath ← Path.check newPath
    let (newDirectory, newName?) ← (tree.place newPath).mapError .os
    if tree.mountOf directory ≠ tree.mountOf newDirectory then
      .error (.os .crossDevice)
    else
      match name?, newName? with
      | some name, some newName =>
        (tree.moveBetween path newPath directory newDirectory name
          newName).mapError .os
      | _, _ => .error (.os .busy)

/-- What is moved is what stands at the location that it is moved from. -/
theorem find?_source_of_moveBetween
    {tree : FileTree}
    {path newPath : Path}
    {directory newDirectory : Location}
    {name newName : String}
    {move : Move}
    (sought :
      tree.moveBetween path newPath directory newDirectory name newName =
        .ok (some move)) :
    tree.find? move.source = some move.moving := by
  unfold moveBetween at sought
  split at sought
  · cases sought
  split at sought
  · cases sought
  next moving found =>
    iterate 5
      split at sought
      · cases sought
    split at sought
    · cases sought
    · cases sought
      exact found

theorem find?_source_of_moveFor
    {tree : FileTree}
    {path newPath : String}
    {move : Move}
    (sought : tree.moveFor path newPath = .ok (some move)) :
    tree.find? move.source = some move.moving := by
  unfold moveFor at sought
  split at sought
  · cases sought
  rw [bind_eq_ok_iff] at sought
  rcases sought with ⟨path, -, sought⟩
  rw [bind_eq_ok_iff] at sought
  rcases sought with ⟨⟨directory, name?⟩, -, sought⟩
  rw [bind_eq_ok_iff] at sought
  rcases sought with ⟨newPath, -, sought⟩
  rw [bind_eq_ok_iff] at sought
  rcases sought with ⟨⟨newDirectory, newName?⟩, -, sought⟩
  dsimp only at sought
  split at sought
  · cases sought
  split at sought
  · rw [mapError_eq_ok_iff] at sought
    exact find?_source_of_moveBetween sought
  · cases sought

/-- The tree with a move made, if there is one to make. -/
def afterMove
    (tree : FileTree)
    (time : Int) :
    Option Move → FileTree
  | none => tree
  | some move =>
    (tree.move move.source move.target).insert move.target
      (move.moving.touched time)

/-- A renaming moves what has to be moved, and does nothing else. -/
theorem rename_eq
    (tree : FileTree)
    (time : Int)
    (path newPath : String) :
    tree.rename time path newPath =
      (tree.moveFor path newPath).map (tree.afterMove time) := by
  unfold rename moveFor
  split
  · rfl
  rcases Path.check path with error | path
  · rfl
  dsimp only [bind, Except.bind]
  rcases tree.place path with error | ⟨directory, name?⟩
  · rfl
  dsimp only [mapError_ok]
  rcases Path.check newPath with error | newPath
  · rfl
  dsimp only
  rcases tree.place newPath with error | ⟨newDirectory, newName?⟩
  · rfl
  dsimp only [mapError_ok]
  by_cases crosses : tree.mountOf directory ≠ tree.mountOf newDirectory
  · rw [if_pos crosses, if_pos crosses]
    rfl
  rw [if_neg crosses, if_neg crosses]
  rcases name? with _ | name
  · rfl
  rcases newName? with _ | newName
  · rfl
  -- Both paths have a last name; what is left is between their locations.
  dsimp only
  unfold moveBetween
  by_cases long : Path.greatestNameLength < name.utf8ByteSize
  · rw [if_pos long, if_pos long]
    rfl
  rw [if_neg long, if_neg long]
  rcases tree.find? (name :: directory) with _ | moving
  · rfl
  dsimp only
  split
  · rfl
  split
  · rfl
  split
  · rfl
  split
  · rfl
  split
  · rfl
  cases tree.replacementError? (newName :: newDirectory) moving <;> rfl

end Scenario.FileTree
