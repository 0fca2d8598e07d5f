import Scenario.IoError

/-!
# File trees

A file tree says what stands at a location.  A location is the list of names
that lead to it from the root, the innermost name first, so the head is the
name of the entry itself and the tail is the directory that holds it.  The root
is the empty location and always a directory.

Parts of the tree may be mounted from elsewhere; entries cannot be moved
between them.

Some of what a system knows of its files is left out.

* No two entries share a file, so what is written to one shows in no other.
* Everybody may read and write everything.
* An operation that fails changes nothing.  In particular, a file that has been
  opened and emptied is always written.
* A directory that something is mounted on can be moved like any other.  The
  working directory is whatever stands at its location, even if that has been
  moved there.
* Of devices only those are known that are always full.  They would deliver
  bytes without end; here nothing is read from them.
-/

namespace Scenario

/-- A place in a file tree, the innermost name first. -/
abbrev Location := List String

namespace Location

/-- The directory that holds a location. -/
def directory (location : Location) : Location :=
  location.tail

/-- A location lies below a directory, or is that directory. -/
def IsWithin (location directory : Location) : Prop :=
  directory <:+ location

instance (location directory : Location) :
    Decidable (location.IsWithin directory) :=
  inferInstanceAs (Decidable (_ <:+ _))

/-- The location that takes the place of another one when a directory that it
lies in is moved. -/
def moved (location source target : Location) : Location :=
  if location.IsWithin source then
    location.take (location.length - source.length) ++ target
  else
    location

end Location

/-- Contents are compared byte by byte. -/
local instance decidableEqContents : DecidableEq ByteArray :=
  ByteArray.decEq

/-- What stands at a location. -/
inductive Entry where
  | directory
  | file (contents : ByteArray) (changed : Int)
  | link (target : String)
  /-- A device that takes no bytes, because it is always full. -/
  | fullDevice (changed : Int)
deriving DecidableEq

namespace Entry

/-- The entry is a directory. -/
def isDirectory : Entry → Bool
  | directory => true
  | _ => false

/-- The entry with its change time set, if it has one. -/
def touched (entry : Entry) (time : Int) : Entry :=
  match entry with
  | file contents _ => file contents time
  | fullDevice _ => fullDevice time
  | other => other

end Entry

/-- A tree of directories, files and links. -/
structure FileTree where
  /-- What stands where; the first entry for a location counts. -/
  entries : List (Location × Entry)
  /-- Where paths start that do not start at the root. -/
  workingDirectory : Location := []
  /-- The directories from which on entries belong to another file system. -/
  mounts : List Location := []
deriving DecidableEq

namespace FileTree

/-- The entry at a location. -/
def find? (tree : FileTree) (location : Location) : Option Entry :=
  if location = [] then
    some .directory
  else
    (tree.entries.find? fun entry => entry.1 == location).map (·.2)

/-- There is a directory at a location. -/
def isDirectory (tree : FileTree) (location : Location) : Bool :=
  (tree.find? location).any Entry.isDirectory

/-- A directory holds something. -/
def isOccupied (tree : FileTree) (directory : Location) : Bool :=
  tree.entries.any fun entry => entry.1.directory == directory

/-- The tree without the entry at a location. -/
def erase (tree : FileTree) (location : Location) : FileTree :=
  { tree with entries := tree.entries.filter fun entry => entry.1 != location }

/-- The tree with an entry set at a location. -/
def insert
    (tree : FileTree)
    (location : Location)
    (entry : Entry) :
    FileTree :=
  { tree with entries := (location, entry) :: (tree.erase location).entries }

/-- The tree with all that lies within a location moved to another one, in
place of what was there. -/
def move
    (tree : FileTree)
    (source target : Location) :
    FileTree :=
  { tree with
    entries := (tree.erase target).entries.map fun entry =>
      (entry.1.moved source target, entry.2)
    workingDirectory := tree.workingDirectory.moved source target }

/-- The root of the file system that a location belongs to. -/
def mountOf (tree : FileTree) : Location → Location
  | [] => []
  | name :: directory =>
    if (name :: directory) ∈ tree.mounts then
      name :: directory
    else
      tree.mountOf directory

/-- The entries below a directory with their names from there on, the outermost
first, and ordered by them: every directory stands directly before its
contents. -/
def below (tree : FileTree) (directory : Location) :
    List (List String × Entry) :=
  let inside := tree.entries.filter fun entry =>
    entry.1.IsWithin directory && entry.1 != directory
  let named := inside.map fun entry =>
    ((entry.1.take (entry.1.length - directory.length)).reverse, entry.2)
  named.mergeSort fun left right =>
    !right.1.lex left.1 fun first second => first < second

/-! ## Laws -/

@[simp]
theorem find?_erase_of_ne
    (tree : FileTree)
    {location asked : Location}
    (different : asked ≠ location) :
    (tree.erase location).find? asked = tree.find? asked := by
  unfold find? erase
  split
  · rfl
  · rw [List.find?_filter]
    congr 2
    funext entry
    by_cases same : entry.1 = asked
    · simp [same, different]
    · simp [same]

@[simp]
theorem find?_insert_self
    (tree : FileTree)
    {location : Location}
    (inner : location ≠ [])
    (entry : Entry) :
    (tree.insert location entry).find? location = some entry := by
  simp [find?, insert, inner]

@[simp]
theorem find?_insert_of_ne
    (tree : FileTree)
    {location asked : Location}
    (different : asked ≠ location)
    (entry : Entry) :
    (tree.insert location entry).find? asked = tree.find? asked := by
  rw [← find?_erase_of_ne tree different]
  simp [find?, insert, Ne.symm different]

/-- A tree without an entry is what is left when the entry is set and
erased. -/
theorem erase_insert
    (tree : FileTree)
    (location : Location)
    (entry : Entry) :
    (tree.insert location entry).erase location = tree.erase location := by
  simp [insert, erase, List.filter_filter]

/-- Of two entries set at a location the latter counts. -/
theorem insert_insert
    (tree : FileTree)
    (location : Location)
    (first second : Entry) :
    (tree.insert location first).insert location second =
      tree.insert location second := by
  simp [insert, erase, List.filter_filter]

end FileTree

end Scenario
