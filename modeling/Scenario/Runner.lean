import Scenario.BuiltIn.Registry
import Scenario.Document.Load
import Scenario.Engine
import Scenario.Sink.JsonFile

/-!
# Running scenario files

A scenario is loaded from a file, run, and its document written to another
file.
-/

namespace Scenario

namespace Document

/-- Load a document from a file. -/
def load
    {m : Type → Type}
    [Monad m]
    [FileAccess m]
    (path : String) :
    m (Logged (Except DocumentError Document)) := do
  let begun : LogEvent :=
    { level := .info
      source := .document
      message := s!"scenario build from {path}" }
  match ← FileAccess.contents path with
  | .error error =>
    return { value := .error (.unreadable path error), log := [begun] }
  | .ok text => return { value := ofText path text, log := [begun] }

end Document

/-- Why a scenario was not run to its end. -/
inductive ScenarioError where
  | document (error : DocumentError)
  | engine (error : EngineError)
deriving DecidableEq, Repr

namespace ScenarioError

/-- The text of the error. -/
def message : ScenarioError → String
  | document error => error.message
  | engine error => error.message

/-- The texts of the errors behind the error, the nearest first. -/
def causes : ScenarioError → List String
  | document error => error.causes
  | engine error => error.causes

end ScenarioError

namespace Runner

/-- An event of a scenario file being run. -/
def event (message : String) : LogEvent :=
  { level := .info, source := .runner, message }

/-- The event of a scenario being loaded. -/
def loadedEvent (document : Document) : LogEvent :=
  event s!"scenario loaded with {document.size} steps"

/-- The event of a run being over. -/
def finishedEvent (summary : Summary) : LogEvent :=
  event <|
    s!"scenario finished: total {summary.total} " ++
      s!"success {summary.success} failed {summary.failed}"

end Runner

/-- Load a scenario, run it with a registry, and write its document. -/
def runScenarioFile
    {m : Type → Type}
    [Monad m]
    [FileAccess m]
    (registry : Registry m)
    (scenario out : String) :
    m (Logged (Except ScenarioError Outcome)) := do
  let loaded ← Document.load scenario
  match loaded.value with
  | .error error =>
    return { value := .error (.document error), log := loaded.log }
  | .ok document =>
    let run ← Engine.run registry (Sink.jsonFile out) { document }
    let log := loaded.log ++ [Runner.loadedEvent document] ++ run.log
    match run.result with
    | .error error => return { value := .error (.engine error), log }
    | .ok outcome =>
      return {
        value := .ok outcome
        log := log ++ [Runner.finishedEvent run.engine.document.summary] }

end Scenario
