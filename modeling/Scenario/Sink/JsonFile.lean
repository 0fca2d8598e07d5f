import Scenario.Document.Encode
import Scenario.FileAccess
import Scenario.Sink

/-!
# Sinks that write files

The result of a run is kept as the whole contents of one file, as JSON text.
If the file cannot be opened or takes no bytes, nothing is written.
-/

namespace Scenario.Sink

/-- An event of a sink. -/
def event (message : String) : LogEvent :=
  { level := .info, source := .persist, message }

/-- The sink that replaces the contents of a file by the text of the
document. -/
def jsonFile
    {m : Type → Type}
    [Monad m]
    [FileAccess m]
    (path : String) :
    Sink m :=
  fun document => do
    let begun := event s!"scenario flush from memory to {path}"
    let text := document.text
    match ← FileAccess.replace path text with
    | .error error =>
      return { value := .error { path, error }, log := [begun] }
    | .ok () =>
      return {
        value := .ok ()
        log := [begun, event s!"save to {path} bytes {text.utf8ByteSize}"] }

end Scenario.Sink
