import Scenario.FileAccess
import Scenario.FileTree.Change

/-!
# Hosts

A host is a file tree, a clock and a time zone.  It gives a program its file
operations.  An operation that changes the tree carries the second that the
clock shows; one that fails leaves the host as it was.

What the clock shows at the changes to come belongs to the host, and nothing is
assumed of it: it may go on by any amount, stand still, or be set back.  Nor is
anything assumed of the zone.
-/

namespace Scenario

/-- A file tree, a clock and a time zone. -/
structure Host where
  files : FileTree
  /-- The time that the clock shows, in nanoseconds from the beginning of 1970
  in universal time. -/
  clock : Int := 0
  /-- The times that the clock shows after each of the changes to come. -/
  readings : Nat → Int := fun _ => clock
  /-- The seconds by which local time is ahead of universal time, at each
  second from the beginning of 1970. -/
  zone : Int → Int := fun _ => 0

namespace Host

/-- The nanoseconds of a second. -/
def nanosecondsPerSecond : Int := 1000000000

/-- The time in whole seconds. -/
def second (host : Host) : Int :=
  host.clock / nanosecondsPerSecond

/-- The host after a change that leaves the given tree. -/
def advance (host : Host) (files : FileTree) : Host :=
  { host with
    files
    clock := host.readings 0
    readings := fun number => host.readings (number + 1) }

/-- Change the tree at the time of the clock. -/
def change
    (operation : FileTree → Int → Except IoError FileTree) :
    StateM Host (Except IoError Unit) :=
  fun host =>
    match operation host.files host.second with
    | .error error => (.error error, host)
    | .ok files => (.ok (), host.advance files)

/-- Ask something of the host. -/
def ask
    {α : Type}
    (question : Host → Except IoError α) :
    StateM Host (Except IoError α) :=
  fun host => (question host, host)

/-- The status of an entry. -/
def statusOf (host : Host) : Entry → FileStatus
  | .file _ changed =>
    { isDirectory := false, changed, offset := host.zone changed }
  | .fullDevice changed =>
    { isDirectory := false, changed, offset := host.zone changed }
  | .directory => { isDirectory := true, changed := 0 }
  | .link _ => { isDirectory := false, changed := 0 }

instance : FileAccess (StateM Host) where
  create path := change fun tree time => tree.create time path
  remove path := change fun tree _ => tree.remove path
  rename path newPath := change fun tree time => tree.rename time path newPath
  status path := ask fun host => (host.files.status path).map host.statusOf
  replace path text := change fun tree time => tree.replace time path text
  contents path := ask fun host => host.files.contents path

/-- After a change the tree is the one that the change leaves. -/
@[simp]
theorem files_advance (host : Host) (files : FileTree) :
    (host.advance files).files = files :=
  rfl

/-- A change that fails leaves the host as it was. -/
theorem change_snd_of_error
    {operation : FileTree → Int → Except IoError FileTree}
    {host : Host}
    {error : IoError}
    (failed : operation host.files host.second = .error error) :
    change operation host = (.error error, host) := by
  simp [change, failed]

end Host

end Scenario
