import Scenario.Decimal.FloatText
import Scenario.Document
import Scenario.Json.Value
import Scenario.Text.Quoted

/-!
# Documents from JSON values

Documents, steps and summaries are records.  A record is read from an object,
whose fields are visited in their order and of which unknown ones are ignored,
or from an array that lists the fields in the order of their declaration.  The
fields at the end that have a default may be missing in either form.

Reading a document here says nothing on whether it has been run before.
-/

namespace Scenario

open Json (Value)

/-- What an error says about a value that it found in the wrong place. -/
inductive Shape where
  | null
  | bool (value : Bool)
  | integer (value : Int)
  | float (bits : UInt64)
  | string (text : String)
  | array
  | object
deriving DecidableEq, Repr

/-- The shape of a value. -/
def Shape.of : Value → Shape
  | .null => null
  | .bool value => bool value
  | .number (.integer value) => integer value
  | .number (.float value) => float value.toBits
  | .string text => string text
  | .array _ => array
  | .object _ => object

/-- How a shape is described in an error. -/
def Shape.description : Shape → String
  | null => "null"
  | bool value => s!"boolean `{value}`"
  | integer value => s!"integer `{value}`"
  | float bits =>
    s!"floating point `{Decimal.messageStyle.text (Float.ofBits bits)}`"
  | string text => s!"string {Text.quoted text}"
  | array => "sequence"
  | object => "map"

/-- The records of a document. -/
inductive Record where
  | document
  | step
  | summary
deriving DecidableEq, Repr

namespace Record

/-- The name of a record in an error. -/
def name : Record → String
  | document => "Document"
  | step => "Step"
  | summary => "StepsResult"

/-- The names of the fields, in the order of an array that lists them. -/
def fields : Record → List String
  | document => ["steps", "steps_result"]
  | step => ["name", "args", "result"]
  | summary => ["total", "success", "failed", "failed_step", "error"]

/-- The number of fields at the front that have no default. -/
def required : Record → Nat
  | document => 1
  | step => 1
  | summary => 3

end Record

/-- What was expected where something else was found. -/
inductive Expected where
  | text
  | list
  | count
  | record (kind : Record)
deriving DecidableEq, Repr

/-- How an expectation is described in an error. -/
def Expected.description : Expected → String
  | text => "a string"
  | list => "a sequence"
  | count => "usize"
  | record kind => s!"struct {kind.name}"

/-- Why a value is not a document. -/
inductive DecodeError where
  | mismatch (found : Shape) (expected : Expected)
  | negativeCount (value : Int)
  | missingField (name : String)
  | tooFewItems (count : Nat) (record : Record)
  | tooManyItems (count : Nat)
  | unknownAction (name : String)
  | invalidResult (text : String)
deriving DecidableEq, Repr

/-- The text of the error. -/
def DecodeError.message : DecodeError → String
  | mismatch found expected =>
    s!"invalid type: {found.description}, expected {expected.description}"
  | negativeCount value =>
    s!"invalid value: integer `{value}`, expected {Expected.count.description}"
  | missingField name => s!"missing field `{name}`"
  | tooFewItems count record =>
    let size := record.fields.length
    s!"invalid length {count}, expected struct {record.name} with {size} elements"
  | tooManyItems count =>
    s!"invalid length {count}, expected fewer elements in array"
  | unknownAction name => s!"unknown action name '{name}'"
  | invalidResult text => s!"invalid step result '{text}'"

/-- What reading a value gives. -/
abbrev Decoded (α : Type) := Except DecodeError α

namespace Decode

/-- Read a text. -/
def text : Value → Decoded String
  | .string text => .ok text
  | value => .error (.mismatch (.of value) .text)

/-- Read a list of anything. -/
def list {α : Type} (item : Value → Decoded α) : Value → Decoded (List α)
  | .array items => items.mapM item
  | value => .error (.mismatch (.of value) .list)

/-- Read a count. -/
def count : Value → Decoded Nat
  | .number (.integer value) =>
    if value < 0 then .error (.negativeCount value) else .ok value.toNat
  | value => .error (.mismatch (.of value) .count)

/-- Read something that may be null. -/
def optional {α : Type} (item : Value → Decoded α) :
    Value → Decoded (Option α)
  | .null => .ok none
  | value => (item value).map some

/-- Read the kind of an action. -/
def actionKind (value : Value) : Decoded ActionKind := do
  let name ← text value
  match ActionKind.ofName name with
  | .ok kind => .ok kind
  | .error _ => .error (.unknownAction name)

/-- Read the result of a step.  An empty text stands for none. -/
def stepResult (value : Value) : Decoded (Option StepStatus) := do
  match ← optional text value with
  | none => return none
  | some "" => return none
  | some name =>
    match StepStatus.ofName name with
    | .ok status => .ok (some status)
    | .error _ => .error (.invalidResult name)

/-- Read a record whose fields are collected one by one. -/
def record
    {α : Type}
    (kind : Record)
    (field : α → String × Value → Decoded α)
    (start : α) :
    Value → Decoded α
  | .object fields => fields.foldlM field start
  | .array items => do
    let collected ← (kind.fields.zip items).foldlM field start
    if items.length < kind.required then
      .error (.tooFewItems items.length kind)
    else if kind.fields.length < items.length then
      .error (.tooManyItems items.length)
    else
      .ok collected
  | value => .error (.mismatch (.of value) (.record kind))

/-- A field that a record cannot do without. -/
def required {α : Type} (name : String) : Option α → Decoded α
  | some value => .ok value
  | none => .error (.missingField name)

/-- The fields of a step read so far. -/
structure StepFields where
  kind? : Option ActionKind := none
  arguments : List String := []
  result? : Option StepStatus := none

/-- Read one field of a step. -/
def stepField (step : StepFields) : String × Value → Decoded StepFields
  | ("name", value) => do
    return { step with kind? := some (← actionKind value) }
  | ("args", value) => do
    return { step with arguments := ← list text value }
  | ("result", value) => do
    return { step with result? := ← stepResult value }
  | _ => .ok step

/-- Read a step. -/
def step (value : Value) : Decoded Step := do
  let fields ← record .step stepField {} value
  let kind ← required "name" fields.kind?
  return ⟨kind, fields.arguments, fields.result?⟩

/-- The fields of a summary read so far. -/
structure SummaryFields where
  total? : Option Nat := none
  success? : Option Nat := none
  failed? : Option Nat := none
  failedStep? : Option Nat := none
  error? : Option String := none

/-- Read one field of a summary. -/
def summaryField
    (summary : SummaryFields) :
    String × Value → Decoded SummaryFields
  | ("total", value) => do
    return { summary with total? := some (← count value) }
  | ("success", value) => do
    return { summary with success? := some (← count value) }
  | ("failed", value) => do
    return { summary with failed? := some (← count value) }
  | ("failed_step", value) => do
    return { summary with failedStep? := ← optional count value }
  | ("error", value) => do
    return { summary with error? := ← optional text value }
  | _ => .ok summary

/-- Read a summary. -/
def summary (value : Value) : Decoded Summary := do
  let fields ← record .summary summaryField {} value
  let total ← required "total" fields.total?
  let success ← required "success" fields.success?
  let failed ← required "failed" fields.failed?
  return {
    total, success, failed,
    failedStep? := fields.failedStep?, error? := fields.error? }

/-- The fields of a document read so far. -/
structure DocumentFields where
  steps? : Option (List Step) := none
  summary : Summary := {}

/-- Read one field of a document. -/
def documentField
    (document : DocumentFields) :
    String × Value → Decoded DocumentFields
  | ("steps", value) => do
    return { document with steps? := some (← list step value) }
  | ("steps_result", value) => do
    return { document with summary := ← Decode.summary value }
  | _ => .ok document

end Decode

/-- Read a document, with the results and the summary that it carries. -/
def Document.decode (value : Value) : Decoded Document := do
  let fields ← Decode.record .document Decode.documentField {} value
  let steps ← Decode.required "steps" fields.steps?
  return ⟨steps, fields.summary⟩

end Scenario
