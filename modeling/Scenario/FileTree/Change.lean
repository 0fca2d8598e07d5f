import Scenario.FileTree.Walk

/-!
# Operations on file trees

Every operation gives the tree that it leaves, or an error; then the tree stays
as it is.  Entries that an operation makes or changes carry its time.

Opening a file for writing follows links.  Removing and renaming act on the
last name of a path itself, so they take a link and not its target.
-/

namespace Scenario.FileTree

/-- Create an empty file, unless the path names a file already. -/
def create
    (tree : FileTree)
    (time : Int)
    (path : String) :
    Except IoError FileTree := do
  let path ← Path.check path
  let place ← (tree.writingPlace path).mapError .os
  match tree.find? place with
  | none => return tree.insert place (.file .empty time)
  | some _ => return tree

/-- Make a text the whole contents of a file, and create it if there is
none. -/
def replace
    (tree : FileTree)
    (time : Int)
    (path text : String) :
    Except IoError FileTree := do
  let path ← Path.check path
  let place ← (tree.writingPlace path).mapError .os
  match tree.find? place with
  | some (.fullDevice _) =>
    throw (.os (if text.isEmpty then .invalidArgument else .noSpace))
  | _ => return tree.insert place (.file text.toUTF8 time)

/-- Remove an entry that is not a directory. -/
def remove (tree : FileTree) (path : String) : Except IoError FileTree := do
  let path ← Path.check path
  match ← (tree.place path).mapError .os with
  | (_, none) => throw (.os .isDirectory)
  | (directory, some name) =>
    if Path.greatestNameLength < name.utf8ByteSize then
      throw (.os .nameTooLong)
    match tree.find? (name :: directory) with
    | none => throw (.os .noSuchFile)
    | some .directory => throw (.os .isDirectory)
    | some _ =>
      if path.endsInSlash then
        throw (.os .notDirectory)
      return tree.erase (name :: directory)

/-- Two existing entries, or an entry and a free place, do not fit: an entry can
replace another one only if both are directories or none is, and a directory
only if it is empty. -/
def replacementError?
    (tree : FileTree)
    (target : Location)
    (moving : Entry) :
    Option OsError :=
  match tree.find? target with
  | none => none
  | some replaced =>
    if moving.isDirectory then
      if ¬ replaced.isDirectory then some .notDirectory
      else if tree.isOccupied target then some .notEmpty
      else none
    else if replaced.isDirectory then some .isDirectory
    else none

/-- Give an entry another path, in place of what it names there.  A directory
takes along all it holds. -/
def rename
    (tree : FileTree)
    (time : Int)
    (path newPath : String) :
    Except IoError FileTree := do
  if '\x00' ∈ path.toList ∨ '\x00' ∈ newPath.toList then
    throw .zeroInPath
  let path ← Path.check path
  let (directory, name?) ← (tree.place path).mapError .os
  let newPath ← Path.check newPath
  let (newDirectory, newName?) ← (tree.place newPath).mapError .os
  if tree.mountOf directory ≠ tree.mountOf newDirectory then
    throw (.os .crossDevice)
  match name?, newName? with
  | some name, some newName =>
    let source := name :: directory
    let target := newName :: newDirectory
    if Path.greatestNameLength < name.utf8ByteSize then
      throw (.os .nameTooLong)
    match tree.find? source with
    | none => throw (.os .noSuchFile)
    | some moving =>
      if Path.greatestNameLength < newName.utf8ByteSize then
        throw (.os .nameTooLong)
      if ¬ moving.isDirectory ∧ (path.endsInSlash ∨ newPath.endsInSlash) then
        throw (.os .notDirectory)
      if newDirectory.IsWithin source then
        throw (.os .invalidArgument)
      if directory.IsWithin target then
        throw (.os .notEmpty)
      if source = target then
        return tree
      match tree.replacementError? target moving with
      | some error => throw (.os error)
      | none =>
        return (tree.move source target).insert target (moving.touched time)
  | _, _ => throw (.os .busy)

/-- The status of what a path names, links followed. -/
def status (tree : FileTree) (path : String) : Except IoError Entry := do
  let path ← Path.check path
  let place ← (tree.locate path).mapError .os
  match tree.find? place with
  | some entry => return entry
  | none => throw (.os .noSuchFile)

/-- The text that a file holds, links followed. -/
def contents (tree : FileTree) (path : String) : Except IoError String := do
  match ← tree.status path with
  | .file bytes _ =>
    match String.fromUTF8? bytes with
    | some text => return text
    | none => throw .notText
  | .fullDevice _ => return ""
  | _ => throw (.os .isDirectory)

end Scenario.FileTree
