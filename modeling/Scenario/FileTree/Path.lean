import Scenario.FileTree
import Scenario.Text.Cut

/-!
# Paths

A path is a text that names a place in a file tree.  It is taken apart at its
slashes; several slashes count as one.  A slash at the end is kept in mind,
because it asks for a directory.
-/

namespace Scenario

/-- A path, taken apart. -/
structure Path where
  /-- The path starts at the root. -/
  isAbsolute : Bool
  /-- The names between the slashes. -/
  names : List String
  /-- The path ends in a slash. -/
  endsInSlash : Bool
deriving DecidableEq, Repr

namespace Path

/-- Take a path apart. -/
def ofText (text : String) : Path :=
  let characters := text.toList
  { isAbsolute := characters.head? == some '/'
    names :=
      ((Text.cutAt '/' characters).filter (· ≠ [])).map String.ofList
    endsInSlash := characters.getLast? == some '/' }

/-- Where a path starts, seen from a directory. -/
def start (path : Path) (directory : Location) : Location :=
  if path.isAbsolute then [] else directory

/-- The names to follow.  A slash at the end asks for a directory as a dot
does. -/
def steps (path : Path) : List String :=
  if path.endsInSlash then path.names ++ ["."] else path.names

/-- The longest path in bytes. -/
def greatestLength : Nat := 4095

/-- The longest name in bytes. -/
def greatestNameLength : Nat := 255

/-- Take a path apart if it can be one. -/
def check (text : String) : Except IoError Path :=
  if '\x00' ∈ text.toList then
    .error .zeroInPath
  else if text.isEmpty then
    .error (.os .noSuchFile)
  else if greatestLength < text.utf8ByteSize then
    .error (.os .nameTooLong)
  else
    .ok (ofText text)

end Path

end Scenario
