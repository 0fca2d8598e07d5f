import Scenario.Action
import Scenario.FileAccess

/-!
# Actions on files

Every action checks the number of its arguments first.  Its result is the path
that the next step should see; a removed file leaves none.
-/

namespace Scenario.BuiltIn

variable {m : Type → Type} [Monad m]

/-- The reply of an action whose operation on a file is done, or has failed. -/
def reply
    (kind : ActionKind)
    (path result : String)
    (log : List LogEvent) :
    Except IoError Unit → Logged ActionResult
  | .ok () => { value := .ok result, log }
  | .error error => { value := .error (.ofIo kind path error) }

/-- An action on files with the number of its arguments checked. -/
def taking
    (arity : Arity)
    (kind : ActionKind)
    (perform :
      (arguments : List String) →
        arity.Fits arguments.length → m (Logged ActionResult)) :
    Action m :=
  arity.checking kind (fun error => pure { value := .error error }) perform

/-- An event of an action on a file. -/
def event (message : String) : LogEvent :=
  { level := .debug, source := .files, message }

/-- Each text as a line of its own. -/
def linesText (lines : List String) : String :=
  String.join (lines.map (· ++ "\n"))

variable [FileAccess m]

/-- Create a file, unless it exists; what an existing one holds stays. -/
def create : Action m :=
  taking (.exactly 1) .create fun
    | [path], _ => do
      return reply .create path path [event s!"created {path}"]
        (← FileAccess.create path)

/-- Remove a file. -/
def remove : Action m :=
  taking (.exactly 1) .remove fun
    | [path], _ => do
      return reply .remove path "" [] (← FileAccess.remove path)

/-- Give a file another path. -/
def rename : Action m :=
  taking (.exactly 2) .rename fun
    | [path, newPath], _ => do
      return reply .rename path newPath [] (← FileAccess.rename path newPath)

/-- Tell when a file was last changed, in local time. -/
def changeTime : Action m :=
  taking (.exactly 1) .cTime fun
    | [path], _ => do
      match ← FileAccess.file? path with
      | none => return { value := .error (.notFound .cTime path) }
      | some status =>
        match status.stamp? with
        | none =>
          return { value := .error (.io .cTime path .changeTimeOutOfRange) }
        | some stamp => return { value := .ok stamp }

/-- Replace what an existing file holds by a line for each further
argument. -/
def write : Action m :=
  taking (.atLeast 1) .write fun
    | path :: lines, _ => do
      match ← FileAccess.file? path with
      | none => return { value := .error (.notFound .write path) }
      | some _ =>
        let text := linesText lines
        return reply .write path path
          [event s!"wrote {text.utf8ByteSize} bytes to {path}"]
          (← FileAccess.replace path text)

end Scenario.BuiltIn
