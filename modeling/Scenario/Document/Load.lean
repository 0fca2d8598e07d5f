import Scenario.Document.Decode
import Scenario.IoError
import Scenario.Json.Parser

/-!
# Fresh documents

A run starts from a fresh document, one that no run has marked.  A text whose
steps carry results is refused as already processed, and that verdict comes
before any complaint about the rest of the text: it is taken on the JSON value,
where a non-empty result counts even if it is not a known one.  Only results
written as a field of an object are seen at that point; a document that shows
a result after decoding is refused as well.

A summary found in the text is read, so it has to be well formed, but it is
not kept.
-/

namespace Scenario

open Json (Value)

/-- Why a text is not a document. -/
inductive FormatError where
  | malformed (error : Json.SyntaxError)
  | undecodable (error : DecodeError)
deriving DecidableEq, Repr

/-- The text of the error. -/
def FormatError.message : FormatError → String
  | malformed error => error.message
  | undecodable error => error.message

/-- Why no document could be loaded. -/
inductive DocumentError where
  | unreadable (path : String) (error : IoError)
  | badFormat (path : String) (error : FormatError)
  | alreadyProcessed
deriving DecidableEq, Repr

/-- The text of the error. -/
def DocumentError.message : DocumentError → String
  | unreadable path error => s!"failed read scenario {path}: {error.message}"
  | badFormat path error => s!"failed parse scenario {path}: {error.message}"
  | alreadyProcessed => "error steps already processed"

/-- The texts of the errors behind the error, the nearest first. -/
def DocumentError.causes : DocumentError → List String
  | unreadable _ error => [error.message]
  | badFormat _ error => [error.message]
  | alreadyProcessed => []

/-- The step carries a result that is not the empty text. -/
def carriesResult (step : Value) : Bool :=
  match (step.field? "result").bind Value.text? with
  | some result => result != ""
  | none => false

/-- Some step of the document carries a result. -/
def hasRecordedResult (document : Value) : Bool :=
  match (document.field? "steps").bind Value.items? with
  | some steps => steps.any carriesResult
  | none => false

namespace Document

/-- Read a document from a value, and refuse it if it has been run. -/
def ofValue (path : String) (value : Value) : Except DocumentError Document :=
  if hasRecordedResult value then
    .error .alreadyProcessed
  else
    match decode value with
    | .error error => .error (.badFormat path (.undecodable error))
    | .ok document =>
      if document.Unprocessed then
        .ok { document with summary := {} }
      else
        .error .alreadyProcessed

/-- Read a document from a text, and refuse it if it has been run.  Errors
name the given path. -/
def ofText (path text : String) : Except DocumentError Document :=
  match Json.parse text with
  | .error error => .error (.badFormat path (.malformed error))
  | .ok value => ofValue path value

/-- The path that errors name for a text that comes from no file. -/
def inlinePath : String := "<inline>"

end Document

end Scenario
