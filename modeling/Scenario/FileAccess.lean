import Scenario.IoError
import Scenario.Moment.Format

/-!
# Access to files

The operations on files that the program needs.  They are named by path, and a
failure leaves a reason.  The program is written for any monad that has them:
the model of a file tree has them, and so has the system that the program runs
on.
-/

namespace Scenario

/-- What is known of an existing file without reading it. -/
structure FileStatus where
  isDirectory : Bool
  /-- When the file was last changed, in seconds from the beginning of 1970 in
  universal time. -/
  changed : Int
  /-- The seconds by which local time was ahead of universal time then. -/
  offset : Int := 0
deriving DecidableEq, Repr

/-- The text of the local time at which a file was last changed.  There is none
if the calendar does not have the universal time. -/
def FileStatus.stamp? (status : FileStatus) : Option String :=
  (Moment.ofSeconds? status.changed).map fun _ =>
    Moment.textOfSeconds (status.changed + status.offset)

/-- The local moment at which a file was last changed, if the calendar has it
and the universal time. -/
def FileStatus.moment? (status : FileStatus) : Option Moment :=
  (Moment.ofSeconds? status.changed).bind fun _ =>
    Moment.ofSeconds? (status.changed + status.offset)

section

variable
    {status : FileStatus}
    {stamp : String}

theorem FileStatus.eq_of_stamp?
    (told : status.stamp? = some stamp) :
    stamp = Moment.textOfSeconds (status.changed + status.offset) := by
  rw [stamp?, Option.map_eq_some_iff] at told
  rcases told with ⟨-, -, rfl⟩
  rfl

theorem FileStatus.stamp?_of_moment?
    {moment : Moment}
    (found : status.moment? = some moment) :
    status.stamp? = some moment.text := by
  rw [moment?, Option.bind_eq_some_iff] at found
  rcases found with ⟨universal, inCalendar, localTime⟩
  rw [stamp?, inCalendar, Option.map_some,
    Moment.textOfSeconds_eq_text localTime]

end

/-- The operations on files. -/
class FileAccess (m : Type → Type) where
  /-- Open a file for writing, and create it empty if there is none; what it
  holds stays. -/
  create : String → m (Except IoError Unit)
  /-- Remove a file. -/
  remove : String → m (Except IoError Unit)
  /-- Give a file another path. -/
  rename : String → String → m (Except IoError Unit)
  /-- The status of a file, links followed. -/
  status : String → m (Except IoError FileStatus)
  /-- Make a text the whole contents of a file, and create it if there is
  none. -/
  replace : String → String → m (Except IoError Unit)
  /-- The text that a file holds. -/
  contents : String → m (Except IoError String)

/-- The status of what a path names, unless it names nothing or a directory. -/
def FileAccess.file?
    {m : Type → Type}
    [Monad m]
    [FileAccess m]
    (path : String) :
    m (Option FileStatus) := do
  match ← FileAccess.status path with
  | .error _ => return none
  | .ok status => return if status.isDirectory then none else some status

end Scenario
