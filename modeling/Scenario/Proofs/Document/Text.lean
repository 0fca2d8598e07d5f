import Scenario.Document.Encode
import Scenario.Proofs.Document.Record
import Scenario.Proofs.Json.RoundTrip

/-!
# Documents read back

A document is read back from its text.  Only the kind of the error is not in
the text, so it is not there afterwards either.  The order in which the fields
are visited does not matter: the decoder gives the same on the value that was
written as on the one that is read, whose fields are in order.
-/

namespace Scenario

open Json (Value)
open Json.Value (ReadableIn inOrder itemsInOrder fieldsInOrder)

/-- Every count of the summary fits a word of 64 bits. -/
structure Summary.FitsWord (summary : Summary) : Prop where
  total_lt : summary.total < 0x10000000000000000
  success_lt : summary.success < 0x10000000000000000
  failed_lt : summary.failed < 0x10000000000000000
  failedStep_lt : ∀ step ∈ summary.failedStep?, step < 0x10000000000000000

/-- The document as far as its text keeps it: the kind of the error is lost. -/
def Document.withoutErrorKind (document : Document) : Document :=
  { document with
    summary := { document.summary with errorKind? := none } }

/-! ## The text can be read -/

namespace Encode

theorem readableIn_count
    {number : Nat}
    (fits : number < 0x10000000000000000)
    (room : Nat) :
    (count number).ReadableIn room := by
  apply ReadableIn.number
  constructor <;> omega

theorem readableIn_step (room : Nat) (step : Step) :
    (Encode.step step).ReadableIn (room + 2) := by
  have arguments :
      (Value.array (step.arguments.map .string)).ReadableIn (room + 1) := by
    refine .array fun item member => ?_
    rcases List.mem_map.mp member with ⟨argument, -, rfl⟩
    exact .string argument
  refine .object fun field member => ?_
  simp only [List.mem_append, List.mem_singleton] at member
  rcases member with (rfl | given) | recorded
  · exact .string _
  · split at given
    · cases given
    · rw [List.mem_singleton.mp given]
      exact arguments
  · unfold optional at recorded
    split at recorded
    · rw [List.mem_singleton.mp recorded]
      exact .string _
    · cases recorded

theorem readableIn_summary
    {summary : Summary}
    (fits : summary.FitsWord)
    (room : Nat) :
    (Encode.summary summary).ReadableIn (room + 1) := by
  refine .object fun field member => ?_
  simp only [List.mem_append, List.mem_cons, List.not_mem_nil,
    or_false] at member
  rcases member with ((rfl | rfl | rfl) | failedStep) | error
  · exact readableIn_count fits.total_lt room
  · exact readableIn_count fits.success_lt room
  · exact readableIn_count fits.failed_lt room
  · unfold optional at failedStep
    split at failedStep
    · rename_i step recorded
      rw [List.mem_singleton.mp failedStep]
      exact readableIn_count (fits.failedStep_lt step recorded) room
    · cases failedStep
  · unfold optional at error
    split at error
    · rw [List.mem_singleton.mp error]
      exact .string _
    · cases error

end Encode

theorem Document.readableIn_encode
    {document : Document}
    (fits : document.summary.FitsWord)
    (room : Nat) :
    document.encode.ReadableIn (room + 4) := by
  refine .object fun field member => ?_
  simp only [List.mem_cons, List.not_mem_nil, or_false] at member
  rcases member with rfl | rfl
  · refine .array fun item listed => ?_
    rcases List.mem_map.mp listed with ⟨step, -, rfl⟩
    exact Encode.readableIn_step room step
  · exact Encode.readableIn_summary fits (room + 2)

/-- The text of a document is read as the value that was written, with its
fields in order. -/
theorem Document.parse_text
    {document : Document}
    (fits : document.summary.FitsWord) :
    Json.parse document.text = .ok document.encode.inOrder :=
  Json.parse_print (readableIn_encode fits 123)

/-! ## What was written, with its fields in order -/

namespace Encode

theorem inOrder_step (step : Step) :
    (Encode.step step).inOrder =
      .object (
        (if step.arguments.isEmpty then []
          else [("args", .array (step.arguments.map .string))]) ++
        [("name", .string step.kind.name)] ++
        optional "result" step.result? fun status => .string status.name) := by
  rcases step with ⟨kind, _ | ⟨first, arguments⟩, _ | status⟩
  all_goals
    simp (disch := decide) [Encode.step, optional, inOrder, itemsInOrder,
      fieldsInOrder, Json.insertField_cons_of_lt,
      Json.insertField_cons_of_not_lt, Json.Value.itemsInOrder_eq_map,
      Function.comp_def]

theorem inOrder_summary (summary : Summary) :
    (Encode.summary summary).inOrder =
      .object (
        optional "error" summary.error? .string ++
        [("failed", count summary.failed)] ++
        optional "failed_step" summary.failedStep? count ++
        [("success", count summary.success),
          ("total", count summary.total)]) := by
  rcases summary with ⟨total, success, failed, _ | step, _ | error, kind⟩
  all_goals
    simp (disch := decide) [Encode.summary, optional, count, inOrder,
      fieldsInOrder, Json.insertField_cons_of_lt,
      Json.insertField_cons_of_not_lt]

end Encode

theorem Document.inOrder_encode (document : Document) :
    document.encode.inOrder =
      .object
        [("steps",
            .array (document.steps.map fun step =>
              (Encode.step step).inOrder)),
          ("steps_result", (Encode.summary document.summary).inOrder)] := by
  simp (disch := decide) [encode, inOrder, fieldsInOrder,
    Json.insertField_cons_of_not_lt, Json.Value.itemsInOrder_eq_map,
    Function.comp_def]

/-! ## Fields read back -/

namespace Decode

section

variable (fields : StepFields)

theorem stepField_name (kind : ActionKind) :
    stepField fields ("name", .string kind.name) =
      .ok { fields with kind? := some kind } := by
  have read : actionKind (.string kind.name) = .ok kind := by
    simp only [actionKind, text, bind, Except.bind, ActionKind.ofName_name]
  rw [stepField, read]
  rfl

theorem stepField_args (arguments : List String) :
    stepField fields ("args", .array (arguments.map .string)) =
      .ok { fields with arguments } := by
  have read : (arguments.map Value.string).mapM text = .ok arguments :=
    mapM_map_eq_ok fun _ _ => rfl
  rw [stepField, list, read]
  rfl

theorem stepField_result (status : StepStatus) :
    stepField fields ("result", .string status.name) =
      .ok { fields with result? := some status } := by
  have read : stepResult (.string status.name) = .ok (some status) := by
    cases status <;> rfl
  rw [stepField, read]
  rfl

end

/-- A step is read back from what is written for it. -/
theorem step_encode (step : Step) :
    Decode.step (Encode.step step) = .ok step := by
  rcases step with ⟨kind, _ | ⟨first, arguments⟩, _ | status⟩
  all_goals
    simp only [Encode.step, Encode.optional, List.isEmpty_nil,
      List.isEmpty_cons, if_true, Bool.false_eq_true, if_false, Decode.step,
      record, List.foldlM_append, List.foldlM_cons, List.foldlM_nil,
      stepField_name, stepField_args, stepField_result]
    rfl

theorem step_inOrder_encode (step : Step) :
    Decode.step (Encode.step step).inOrder = .ok step := by
  rw [Encode.inOrder_step]
  rcases step with ⟨kind, _ | ⟨first, arguments⟩, _ | status⟩
  all_goals
    simp only [Encode.optional, List.isEmpty_nil, List.isEmpty_cons, if_true,
      Bool.false_eq_true, if_false, Decode.step, record, List.foldlM_append,
      List.foldlM_cons, List.foldlM_nil, stepField_name, stepField_args,
      stepField_result]
    rfl

theorem summary_encode (summary : Summary) :
    Decode.summary (Encode.summary summary) =
      .ok { summary with errorKind? := none } := by
  rcases summary with ⟨total, success, failed, _ | step, _ | error, kind⟩
  all_goals rfl

theorem summary_inOrder_encode (summary : Summary) :
    Decode.summary (Encode.summary summary).inOrder =
      .ok { summary with errorKind? := none } := by
  rw [Encode.inOrder_summary]
  rcases summary with ⟨total, success, failed, _ | step, _ | error, kind⟩
  all_goals rfl

end Decode

namespace Document

/-- A document is read from its two fields if its steps and its summary are
read from theirs. -/
theorem decode_fields
    {steps : List Step}
    {write : Step → Value}
    (each : ∀ step, Decode.step (write step) = .ok step)
    {summary : Summary}
    {value : Value}
    (read : Decode.summary value = .ok summary) :
    decode
        (.object
          [("steps", .array (steps.map write)), ("steps_result", value)]) =
      .ok { steps, summary } := by
  have all : (steps.map write).mapM Decode.step = .ok steps :=
    mapM_map_eq_ok fun step _ => each step
  simp only [decode, Decode.record, List.foldlM_cons, List.foldlM_nil,
    Decode.documentField, Decode.list, all, read]
  rfl

theorem decode_encode (document : Document) :
    decode document.encode = .ok document.withoutErrorKind :=
  decode_fields Decode.step_encode (Decode.summary_encode document.summary)

theorem decode_inOrder_encode (document : Document) :
    decode document.encode.inOrder = .ok document.withoutErrorKind := by
  rw [inOrder_encode]
  exact decode_fields Decode.step_inOrder_encode
    (Decode.summary_inOrder_encode document.summary)

/-- Decoding undoes writing, whether the fields are visited in order or as
they stand in the text. -/
theorem decode_text
    (document : Document)
    (fits : document.summary.FitsWord) :
    (∃ value,
        Json.parse document.text = .ok value ∧
          decode value = .ok document.withoutErrorKind) ∧
      decode document.encode = .ok document.withoutErrorKind :=
  ⟨⟨document.encode.inOrder, parse_text fits, decode_inOrder_encode document⟩,
    decode_encode document⟩

/-- A document with the greatest count, and with texts that need escapes. -/
theorem decode_text_escaped :
    let document : Document := {
      steps := [
        { kind := .write, arguments := ["a\"\\\n\x01\x7f", "é😀", ""],
          result? := some .success },
        { kind := .cTime, result? := some .failed },
        { kind := .condition, arguments := [""] }]
      summary := {
        total := 0xffffffffffffffff, success := 1, failed := 1
        failedStep? := some (0xffffffffffffffff)
        error? := some "\t\x1f", errorKind? := some .io } }
    document.summary.FitsWord ∧
      (∃ value,
        Json.parse document.text = .ok value ∧
          decode value = .ok document.withoutErrorKind) ∧
      decode document.encode = .ok document.withoutErrorKind := by
  intro document
  have fits : document.summary.FitsWord := {
    total_lt := by decide
    success_lt := by decide
    failed_lt := by decide
    failedStep_lt := by
      rintro step ⟨⟩
      decide }
  exact ⟨fits, decode_text document fits⟩

end Document

end Scenario
