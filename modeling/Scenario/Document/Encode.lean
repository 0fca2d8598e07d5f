import Scenario.Document
import Scenario.Json.Printer

/-!
# Documents as JSON text

A document is written as an object, its records with their fields in the order
of their declaration.  Arguments are left out when there are none, and so are
a result, a failed step and an error that are not there.
-/

namespace Scenario

open Json (Value)

namespace Encode

/-- A count as a value. -/
def count (number : Nat) : Value :=
  .number (.integer number)

/-- A field that is left out when there is nothing to write. -/
def optional
    {α : Type}
    (name : String)
    (value? : Option α)
    (encode : α → Value) :
    List (String × Value) :=
  match value? with
  | some value => [(name, encode value)]
  | none => []

/-- A step as a value. -/
def step (step : Step) : Value :=
  .object <|
    [("name", .string step.kind.name)] ++
    (if step.arguments.isEmpty then []
      else [("args", .array (step.arguments.map .string))]) ++
    optional "result" step.result? fun status => .string status.name

/-- A summary as a value. -/
def summary (summary : Summary) : Value :=
  .object <|
    [("total", count summary.total),
      ("success", count summary.success),
      ("failed", count summary.failed)] ++
    optional "failed_step" summary.failedStep? count ++
    optional "error" summary.error? .string

end Encode

namespace Document

/-- A document as a value. -/
def encode (document : Document) : Value :=
  .object
    [("steps", .array (document.steps.map Encode.step)),
      ("steps_result", Encode.summary document.summary)]

/-- A document as the text in which it is kept. -/
def text (document : Document) : String :=
  Json.print document.encode

end Document

end Scenario
