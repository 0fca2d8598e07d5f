import Mathlib
import Scenario.Proofs.Document.Fresh

/-!
# Why a text is refused

A text whose steps state a result is refused whatever else it holds.  It is
refused as already processed if the result stands in an object among the steps
of an object, since that is looked for first.  A result that stands in an array
is found by reading the text, so an error found on the way is reported in its
place; a result that is no known outcome is such an error itself.

The summary of a text is not kept, but it is read.  So it makes no difference
as long as it can be read as a summary; if it cannot, the text is refused for
it, unless it is refused for its steps, which are read first.
-/

namespace Scenario

open Json (Value)

/-! ## What stands in an object -/

namespace Decode

/-- A field of another name is passed over. -/
theorem documentField_of_ne
    (document : DocumentFields)
    {name : String}
    (notSteps : name ≠ "steps")
    (notSummary : name ≠ "steps_result")
    (value : Value) :
    documentField document (name, value) = .ok document := by
  unfold documentField
  split
  · rename_i same
    exact (notSteps (Prod.mk.inj same).1).elim
  · rename_i same
    exact (notSummary (Prod.mk.inj same).1).elim
  · rfl

/-- The fields of a document are read in the order of their names. -/
theorem foldlM_documentField
    {fields : List (String × Value)}
    (ascending : Json.Ascending fields)
    (start : DocumentFields) :
    fields.foldlM documentField start = do
      let steps? ← (fields.lookup "steps").mapM (list step)
      let summary? ← (fields.lookup "steps_result").mapM summary
      return {
        steps? := steps?.or start.steps?
        summary := summary?.getD start.summary } := by
  induction fields generalizing start with
  | nil => rfl
  | cons first fields induction =>
    rcases first with ⟨name, value⟩
    have behind := (List.pairwise_cons.mp ascending).2
    rw [List.foldlM_cons]
    -- Only a summary can come behind the steps, and neither behind a summary.
    by_cases isSteps : name = "steps"
    · subst isSteps
      have noMore := ascending.lookup_behind (String.le_refl _)
      rw [List.lookup_cons_self, Json.lookup_cons_of_ne (by decide),
        Option.mapM_some, documentField]
      cases read : list step value with
      | error error => rfl
      | ok steps =>
        have later := induction behind { start with steps? := some steps }
        rw [noMore] at later
        exact later
    · by_cases isSummary : name = "steps_result"
      · subst isSummary
        have noMore := ascending.lookup_behind (String.le_refl _)
        have noSteps : fields.lookup "steps" = none :=
          ascending.lookup_behind (by decide)
        rw [List.lookup_cons_self, Json.lookup_cons_of_ne (by decide),
          noSteps, Option.mapM_some, documentField]
        cases read : summary value with
        | error error => rfl
        | ok aggregate =>
          have later := induction behind { start with summary := aggregate }
          rw [noMore, noSteps] at later
          exact later
      · rw [documentField_of_ne start isSteps isSummary,
          Json.lookup_cons_of_ne (Ne.symm isSteps),
          Json.lookup_cons_of_ne (Ne.symm isSummary)]
        exact induction behind start

end Decode

/-- Of an object its steps are read, and then its summary. -/
theorem Document.decode_object
    {fields : List (String × Value)}
    (ascending : Json.Ascending fields) :
    decode (.object fields) = do
      let steps? ← (fields.lookup "steps").mapM (Decode.list Decode.step)
      let summary? ← (fields.lookup "steps_result").mapM Decode.summary
      let steps ← Decode.required "steps" steps?
      return ⟨steps, summary?.getD {}⟩ := by
  rw [decode, Decode.record, Decode.foldlM_documentField ascending]
  simp

namespace Decode

theorem text_ne_missingField (name : String) (value : Value) :
    text value ≠ .error (.missingField name) := by
  cases value <;> simp [text]

theorem count_ne_missingField (name : String) (value : Value) :
    count value ≠ .error (.missingField name) := by
  unfold count
  split
  · split <;> simp
  · simp

theorem optional_ne_missingField
    {α : Type}
    {item : Value → Decoded α}
    {name : String}
    (never : ∀ value, item value ≠ .error (.missingField name))
    (value : Value) :
    optional item value ≠ .error (.missingField name) := by
  unfold optional
  split
  · simp
  · cases read : item value with
    | error error =>
      rintro ⟨⟩
      exact never value read
    | ok result => simp [Except.map]

theorem summaryField_ne_missingField
    (name : String)
    (summary : SummaryFields)
    (field : String × Value) :
    summaryField summary field ≠ .error (.missingField name) := by
  intro fails
  unfold summaryField at fails
  split at fails
  case h_6 => cases fails
  all_goals
    rw [bind_eq_error_iff] at fails
    rcases fails with fails | ⟨value, -, ⟨⟩⟩
  · exact count_ne_missingField name _ fails
  · exact count_ne_missingField name _ fails
  · exact count_ne_missingField name _ fails
  · exact optional_ne_missingField (count_ne_missingField name) _ fails
  · exact optional_ne_missingField (text_ne_missingField name) _ fails

theorem record_summaryField_ne_missingField
    (name : String)
    (value : Value) :
    record .summary summaryField {} value ≠ .error (.missingField name) := by
  intro fails
  cases value with
  | object fields =>
    rcases exists_item_of_foldlM fails with ⟨before, field, -, fails⟩
    exact summaryField_ne_missingField name before field fails
  | array items =>
    rw [record, bind_eq_error_iff] at fails
    rcases fails with fails | ⟨collected, -, fails⟩
    · rcases exists_item_of_foldlM fails with ⟨before, field, -, fails⟩
      exact summaryField_ne_missingField name before field fails
    · split at fails
      · cases fails
      · split at fails <;> cases fails
  | _ => cases fails

theorem required_eq_error_iff
    {α : Type}
    (name : String)
    (found? : Option α)
    (error : DecodeError) :
    required name found? = .error error ↔
      found? = none ∧ error = .missingField name := by
  cases found? <;> simp [required, eq_comm]

/-- The fields that a summary may miss are its own. -/
theorem summary_ne_missing_steps (value : Value) :
    summary value ≠ .error (.missingField "steps") := by
  intro fails
  unfold summary at fails
  simp only [bind_eq_error_iff, required_eq_error_iff] at fails
  rcases fails with fails | ⟨fields, -, fails⟩
  · exact record_summaryField_ne_missingField _ _ fails
  · simp [pure, Except.pure] at fails

end Decode

namespace Document

theorem ofText_of_parse
    (path : String)
    {text : String}
    {value : Value}
    (parsed : Json.parse text = .ok value) :
    ofText path text = ofValue path value := by
  rw [ofText, parsed]

/-! ## Texts that state a result -/

/-- A value that states a result is refused as already processed, unless it is
found by reading alone, and reading fails. -/
theorem ofValue_of_statesResult
    (path : String)
    {value step : Value}
    (ordered : value.Ordered)
    (member : step ∈ stepValues value)
    (states : StatesResult step) :
    ofValue path value =
      if hasRecordedResult value then .error .alreadyProcessed
      else
        match decode value with
        | .ok _ => .error .alreadyProcessed
        | .error error => .error (.badFormat path (.undecodable error)) := by
  unfold ofValue
  split
  · rfl
  · cases read : decode value with
    | error error => rfl
    | ok document =>
      have processed : ¬document.Unprocessed := by
        rw [Decode.unprocessed_iff ordered read]
        intro clean
        exact states.not_showsNoResult (clean step member)
      simp only [if_neg processed]

/-- A text of which a step states a result, known or not, is refused as already
processed exactly if some object among the steps of an object states one, or
all of the text can be read.  Else it is refused for what cannot be read in
it. -/
theorem ofText_of_statesResult
    (path : String)
    {text : String}
    {value step : Value}
    (parsed : Json.parse text = .ok value)
    (member : step ∈ stepValues value)
    (states : StatesResult step) :
    (ofText path text = .error .alreadyProcessed ↔
        StatesResultInObjects value ∨
          ∃ document, decode value = .ok document) ∧
      ∀ error,
        ¬StatesResultInObjects value →
          decode value = .error error →
            ofText path text =
              .error (.badFormat path (.undecodable error)) := by
  have refused := ofValue_of_statesResult path
    (Json.ordered_of_parse_eq_ok parsed) member states
  rw [← hasRecordedResult_eq_true_iff, ofText_of_parse path parsed, refused]
  split
  · rename_i recorded
    simp [recorded]
  · rename_i overlooked
    cases decode value with
    | ok document => simp
    | error error => simp [overlooked]

/-- An unknown result is found although the name of an action is unknown, and
although the step that states it names none. -/
theorem ofText_of_statesResult_unread :
    let text := "\x7b\"steps\":[\x7b\"name\":\"chmod\"\x7d,\x7b\"result\":\"done\"\x7d]\x7d"
    let value : Value :=
      .object [
        ("steps", .array [
          .object [("name", .string "chmod")],
          .object [("result", .string "done")]])]
    let step : Value := .object [("result", .string "done")]
    Json.parse text = .ok value ∧
      step ∈ stepValues value ∧
      StatesResult step ∧
      ofText inlinePath text = .error .alreadyProcessed := by
  intro text value step
  have parsed : Json.parse text = .ok value := by cbv
  have member : step ∈ stepValues value := .tail _ (.head _)
  have states : StatesResult step := ⟨"done", rfl, by decide⟩
  have shown : StatesResultInObjects value :=
    ⟨⟨_, rfl⟩, step, member, ⟨_, rfl⟩, states⟩
  have refused := ofText_of_statesResult inlinePath parsed member states
  exact ⟨parsed, member, states, refused.1.mpr (.inl shown)⟩

/-- In a step that is written as an array, an unknown result is an error of its
own. -/
theorem ofText_of_listed_result :
    let text := "\x7b\"steps\":[[\"create\",[\"a\"],\"done\"]]\x7d"
    let step : Value :=
      .array [.string "create", .array [.string "a"], .string "done"]
    let value : Value := .object [("steps", .array [step])]
    Json.parse text = .ok value ∧
      step ∈ stepValues value ∧
      StatesResult step ∧
      ofText inlinePath text =
        .error (.badFormat inlinePath (.undecodable (.invalidResult "done"))) ∧
      ofText inlinePath text ≠ .error .alreadyProcessed := by
  intro text step value
  have parsed : Json.parse text = .ok value := by cbv
  have refused :
      ofText inlinePath text =
        .error
          (.badFormat inlinePath (.undecodable (.invalidResult "done"))) := by
    rw [ofText_of_parse inlinePath parsed]
    rfl
  refine ⟨parsed, .head _, ⟨"done", rfl, by decide⟩, refused, ?_⟩
  rw [refused]
  rintro ⟨⟩

/-! ## Texts with a summary -/

/-- The fields of an object without its summary. -/
def withoutSummary (fields : List (String × Value)) : List (String × Value) :=
  fields.filter fun field => field.1 != "steps_result"

/-- An object is refused for its steps: an object among them states a result,
or they cannot be read. -/
def RefusedForSteps (fields : List (String × Value)) : Prop :=
  StatesResultInObjects (.object fields) ∨
    ∃ listed error,
      fields.lookup "steps" = some listed ∧
        Decode.list Decode.step listed = .error error

theorem hasRecordedResult_withoutSummary (fields : List (String × Value)) :
    hasRecordedResult (.object (withoutSummary fields)) =
      hasRecordedResult (.object fields) := by
  have field : (Value.object (withoutSummary fields)).field? "steps" =
      (Value.object fields).field? "steps" :=
    Json.lookup_filter_ne "steps_result" "steps" fields
  rw [hasRecordedResult, field]
  rfl

/-- What is read of an object without its summary. -/
theorem decode_withoutSummary
    {fields : List (String × Value)}
    (ascending : Json.Ascending fields) :
    decode (.object (withoutSummary fields)) = do
      let steps? ← (fields.lookup "steps").mapM (Decode.list Decode.step)
      let steps ← Decode.required "steps" steps?
      return ⟨steps, {}⟩ := by
  have kept : Json.Ascending (withoutSummary fields) :=
    List.Pairwise.filter _ ascending
  rw [decode_object kept, withoutSummary, Json.lookup_filter_ne,
    Json.lookup_filter_ne]
  simp

/-- Without being refused for its steps, an object holds steps that can be
read, if it holds any. -/
theorem exists_steps?_of_not_refused
    {fields : List (String × Value)}
    (accepted : ¬RefusedForSteps fields) :
    ∃ steps?,
      (fields.lookup "steps").mapM (Decode.list Decode.step) = .ok steps? := by
  cases found : fields.lookup "steps" with
  | none => exact ⟨none, rfl⟩
  | some listed =>
    cases read : Decode.list Decode.step listed with
    | ok steps =>
      refine ⟨some steps, ?_⟩
      rw [Option.mapM_some, read]
      rfl
    | error error => exact (accepted (.inr ⟨listed, error, found, read⟩)).elim

/-- An object that is refused for its steps is refused with its summary as
without it. -/
theorem ofValue_of_refusedForSteps
    (path : String)
    {fields : List (String × Value)}
    (ascending : Json.Ascending fields)
    (refused : RefusedForSteps fields) :
    ofValue path (.object fields) =
      ofValue path (.object (withoutSummary fields)) := by
  unfold ofValue
  rw [hasRecordedResult_withoutSummary, decode_withoutSummary ascending,
    decode_object ascending]
  rcases refused with stated | ⟨listed, error, found, fails⟩
  · have recorded := (hasRecordedResult_eq_true_iff _).mpr stated
    rw [if_pos recorded, if_pos recorded]
  · have stops :
        (fields.lookup "steps").mapM (Decode.list Decode.step) =
          .error error := by
      rw [found, Option.mapM_some, fails]
      rfl
    rw [stops]
    rfl

/-- An object whose steps can be read is refused for its summary if it cannot
be read, and else it is read as without it. -/
theorem ofValue_of_not_refusedForSteps
    (path : String)
    {fields : List (String × Value)}
    {summary : Value}
    (ascending : Json.Ascending fields)
    (present : fields.lookup "steps_result" = some summary)
    (accepted : ¬RefusedForSteps fields) :
    ofValue path (.object fields) =
      match Decode.summary summary with
      | .ok _ => ofValue path (.object (withoutSummary fields))
      | .error error => .error (.badFormat path (.undecodable error)) := by
  have overlooked : ¬hasRecordedResult (.object fields) = true := by
    intro recorded
    exact accepted (.inl ((hasRecordedResult_eq_true_iff _).mp recorded))
  rcases exists_steps?_of_not_refused accepted with ⟨steps?, read⟩
  unfold ofValue
  rw [hasRecordedResult_withoutSummary, decode_withoutSummary ascending,
    decode_object ascending, if_neg overlooked, if_neg overlooked, read,
    present, Option.mapM_some]
  cases Decode.summary summary with
  | error error => rfl
  | ok aggregate => cases steps? <;> rfl

/-- The error of a summary is never what an object is refused for without
it. -/
theorem ofValue_withoutSummary_ne
    (path : String)
    {fields : List (String × Value)}
    {summary : Value}
    {error : DecodeError}
    (ascending : Json.Ascending fields)
    (accepted : ¬RefusedForSteps fields)
    (unreadable : Decode.summary summary = .error error) :
    ofValue path (.object (withoutSummary fields)) ≠
      .error (.badFormat path (.undecodable error)) := by
  rcases exists_steps?_of_not_refused accepted with ⟨steps?, read⟩
  unfold ofValue
  rw [hasRecordedResult_withoutSummary, decode_withoutSummary ascending, read]
  split
  · simp
  · cases steps? with
    | none =>
      rintro ⟨⟩
      exact Decode.summary_ne_missing_steps summary unreadable
    | some steps =>
      dsimp only [bind, Except.bind, pure, Except.pure, Decode.required]
      split <;> simp

/-- The summary of a text makes no difference exactly if it can be read, or the
text is refused for its steps.  Else the text is refused for its summary. -/
theorem ofText_eq_withoutSummary_iff
    (path : String)
    {text bare : String}
    {fields : List (String × Value)}
    {summary : Value}
    (parsed : Json.parse text = .ok (.object fields))
    (present : fields.lookup "steps_result" = some summary)
    (removed : Json.parse bare = .ok (.object (withoutSummary fields))) :
    (ofText path text = ofText path bare ↔
        (∃ aggregate, Decode.summary summary = .ok aggregate) ∨
          RefusedForSteps fields) ∧
      ∀ error,
        Decode.summary summary = .error error →
          ¬RefusedForSteps fields →
            ofText path text =
              .error (.badFormat path (.undecodable error)) := by
  have ascending : Json.Ascending fields := by
    cases Json.ordered_of_parse_eq_ok parsed with
    | object ascending inside => exact ascending
  rw [ofText_of_parse path parsed, ofText_of_parse path removed]
  by_cases refused : RefusedForSteps fields
  · have same := ofValue_of_refusedForSteps path ascending refused
    simp [refused, same]
  · rw [ofValue_of_not_refusedForSteps path ascending present refused]
    cases read : Decode.summary summary with
    | ok aggregate => simp
    | error error =>
      have different :=
        ofValue_withoutSummary_ne path ascending refused read
      simp [refused, different.symm]

/-- A summary of another run makes no difference, in whatever form. -/
theorem ofText_eq_withoutSummary_of_counts :
    let text := "\x7b\"steps_result\":[1,1,0],\"steps\":[\x7b\"name\":\"write\"\x7d]\x7d"
    let bare := "\x7b\"steps\":[\x7b\"name\":\"write\"\x7d]\x7d"
    let summary : Value :=
      .array [
        .number (.integer 1), .number (.integer 1), .number (.integer 0)]
    let fields : List (String × Value) := [
      ("steps", .array [.object [("name", .string "write")]]),
      ("steps_result", summary)]
    Json.parse text = .ok (.object fields) ∧
      fields.lookup "steps_result" = some summary ∧
      Json.parse bare = .ok (.object (withoutSummary fields)) ∧
      ofText inlinePath text = ofText inlinePath bare := by
  intro text bare summary fields
  have parsed : Json.parse text = .ok (.object fields) := by
    dsimp only [text, fields, summary]
    cbv
  have present : fields.lookup "steps_result" = some summary := rfl
  have removed : Json.parse bare = .ok (.object (withoutSummary fields)) := by
    dsimp only [bare, fields, summary]
    cbv
  have readable : ∃ aggregate, Decode.summary summary = .ok aggregate :=
    ⟨_, rfl⟩
  have same :=
    ofText_eq_withoutSummary_iff inlinePath parsed present removed
  exact ⟨parsed, present, removed, same.1.mpr (.inl readable)⟩

/-- A number in place of the summary is an error, even though the summary would
not have been kept. -/
theorem ofText_ne_withoutSummary_of_number :
    let text := "\x7b\"steps\":[],\"steps_result\":5\x7d"
    let bare := "\x7b\"steps\":[]\x7d"
    let summary : Value := .number (.integer 5)
    let fields : List (String × Value) :=
      [("steps", .array []), ("steps_result", summary)]
    Json.parse text = .ok (.object fields) ∧
      fields.lookup "steps_result" = some summary ∧
      Json.parse bare = .ok (.object (withoutSummary fields)) ∧
      ofText inlinePath text =
        .error
          (.badFormat inlinePath
            (.undecodable (.mismatch (.integer 5) (.record .summary)))) ∧
      ofText inlinePath bare = .ok { steps := [] } ∧
      ofText inlinePath text ≠ ofText inlinePath bare := by
  intro text bare summary fields
  have parsed : Json.parse text = .ok (.object fields) := by
    dsimp only [text, fields, summary]
    cbv
  have removed : Json.parse bare = .ok (.object (withoutSummary fields)) := by
    dsimp only [bare, fields, summary]
    cbv
  have refused :
      ofText inlinePath text =
        .error
          (.badFormat inlinePath
            (.undecodable (.mismatch (.integer 5) (.record .summary)))) := by
    rw [ofText_of_parse inlinePath parsed]
    rfl
  have accepted : ofText inlinePath bare = .ok { steps := [] } := by
    rw [ofText_of_parse inlinePath removed]
    rfl
  refine ⟨parsed, rfl, removed, refused, accepted, ?_⟩
  rw [refused, accepted]
  rintro ⟨⟩

end Document

end Scenario
