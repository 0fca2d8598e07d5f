import Scenario.FileTree.Path

/-!
# Following paths

A path is followed name by name from a directory.  A dot stays, two dots go to
the directory above, and a link is replaced by the names of its target.  Every
name but the last has to lead to a directory, and at most forty links are
followed on the way.

Three questions are asked of a path.  What does it name, with links followed?
In which directory would its last name be found?  And which place does a file
get that is opened for writing under it, and created if need be?
-/

namespace Scenario.FileTree

/-- The number of links that may be followed for one path. -/
def linkLimit : Nat := 40

/-- Follow names from a place, with the given number of links still allowed.
Gives the number that is left, and the place. -/
def walk
    (tree : FileTree)
    (links : Nat)
    (names : List String)
    (place : Location) :
    Except OsError (Nat × Location) :=
  match names with
  | [] => .ok (links, place)
  | name :: rest =>
    if ¬ tree.isDirectory place then
      .error .notDirectory
    else if name = "." then
      tree.walk links rest place
    else if name = ".." then
      tree.walk links rest place.directory
    else if Path.greatestNameLength < name.utf8ByteSize then
      .error .nameTooLong
    else
      match tree.find? (name :: place) with
      | none => .error .noSuchFile
      | some (.link target) =>
        match links with
        | 0 => .error .tooManyLinks
        | links + 1 =>
          let path := Path.ofText target
          tree.walk links (path.steps ++ rest) (path.start place)
      | some _ => tree.walk links rest (name :: place)
termination_by (links, names.length)

/-- Following names does not give links back. -/
theorem walk_links_le
    {tree : FileTree}
    {links left : Nat}
    {names : List String}
    {place reached : Location}
    (walked : tree.walk links names place = .ok (left, reached)) :
    left ≤ links := by
  fun_induction walk tree links names place
  case case8 inductive_step => exact Nat.le_succ_of_le (inductive_step walked)
  all_goals simp_all

/-- The last name of a path, if it is one that an entry can have.  Dots name no
entry, and a path that is the root has no name. -/
def entryName? (path : Path) : Option String :=
  path.names.getLast?.filter fun name => name ≠ "." ∧ name ≠ ".."

/-- The directory in which the last name of a path is found. -/
def parent
    (tree : FileTree)
    (links : Nat)
    (path : Path)
    (place : Location) :
    Except OsError (Nat × Location) :=
  match tree.walk links path.names.dropLast (path.start place) with
  | .error error => .error error
  | .ok (left, reached) =>
    if tree.isDirectory reached then .ok (left, reached)
    else .error .notDirectory

/-- Finding the directory of a path does not give links back. -/
theorem parent_links_le
    {tree : FileTree}
    {links left : Nat}
    {path : Path}
    {place reached : Location}
    (found : tree.parent links path place = .ok (left, reached)) :
    left ≤ links := by
  unfold parent at found
  split at found
  · simp at found
  · next walked =>
    split at found
    · simp only [Except.ok.injEq, Prod.mk.injEq] at found
      exact found.1 ▸ walk_links_le walked
    · simp at found

/-- The entry that a path names, links followed, and its place. -/
def locate (tree : FileTree) (path : Path) : Except OsError Location :=
  (tree.walk linkLimit path.steps (path.start tree.workingDirectory)).map
    (·.2)

/-- The place of an entry of which the path gives directory and name. -/
def place
    (tree : FileTree)
    (path : Path) :
    Except OsError (Location × Option String) :=
  (tree.parent linkLimit path tree.workingDirectory).map fun found =>
    (found.2, entryName? path)

/-- The place that a file gets which is opened for writing under a path, seen
from a directory.  It is that of an existing entry which is no directory and no
link, or a free one in an existing directory: a link that leads nowhere leads
to the file that is going to be created. -/
def writingPlaceFrom
    (tree : FileTree)
    (links : Nat)
    (path : Path)
    (place : Location) :
    Except OsError Location :=
  match found : tree.parent links path place with
  | .error error => .error error
  | .ok (left, directory) =>
    match entryName? path with
    | none => .error .isDirectory
    | some name =>
      if path.endsInSlash then
        .error .isDirectory
      else if Path.greatestNameLength < name.utf8ByteSize then
        .error .nameTooLong
      else
        match tree.find? (name :: directory) with
        | some .directory => .error .isDirectory
        | some (.link target) =>
          match left, found with
          | 0, _ => .error .tooManyLinks
          | left + 1, found =>
            have : left < links := parent_links_le found
            tree.writingPlaceFrom left (Path.ofText target) directory
        | _ => .ok (name :: directory)
termination_by links

/-- The place that a file gets which is opened for writing under a path. -/
def writingPlace (tree : FileTree) (path : Path) : Except OsError Location :=
  tree.writingPlaceFrom linkLimit path tree.workingDirectory

end Scenario.FileTree
