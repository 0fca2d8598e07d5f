import Scenario.Document.Load
import Scenario.Proofs.Document.Record
import Scenario.Proofs.Json.RoundTrip

/-!
# Fresh documents and the early check

A text is refused as already processed by a check on its JSON value, and again
by one on the document that is read from it.  The first check sees results only
in objects, the second all of them.  This module proves that the first check
takes nothing away that the second would accept: the texts that are accepted
are those whose document shows no result in any of its steps, in whatever form
the document and its steps are written.
-/

namespace Scenario

open Json (Value)

/-! ## What a value shows -/

/-- The values of the steps of a document, in either form in which it is
written. -/
def stepValues (document : Value) : List Value :=
  match (Record.document.members document).lookup "steps" with
  | some (.array items) => items
  | _ => []

/-- The value of a step shows no result: there is none, or it is null or the
empty text. -/
def ShowsNoResult (step : Value) : Prop :=
  ∀ result,
    (Record.step.members step).lookup "result" = some result →
      result = .null ∨ result = .string ""

namespace Decode

theorem sets_result? :
    Sets stepField StepFields.result? "result" stepResult where
  here := by
    intro before value after read
    rw [stepField, bind_eq_ok_iff] at read
    rcases read with ⟨result?, read, ⟨⟩⟩
    exact read
  elsewhere := by
    intro before other value after different read
    unfold stepField at read
    split at read
    · rw [bind_eq_ok_iff] at read
      rcases read with ⟨kind, -, ⟨⟩⟩
      rfl
    · rw [bind_eq_ok_iff] at read
      rcases read with ⟨arguments, -, ⟨⟩⟩
      rfl
    · rename_i same
      exact (different (Prod.mk.inj same).1).elim
    · cases read
      rfl

theorem sets_steps? :
    Sets documentField DocumentFields.steps? "steps"
      fun value => (list step value).map some where
  here := by
    intro before value after read
    rw [documentField, bind_eq_ok_iff] at read
    rcases read with ⟨steps, read, ⟨⟩⟩
    rw [read]
    rfl
  elsewhere := by
    intro before other value after different read
    unfold documentField at read
    split at read
    · rename_i same
      exact (different (Prod.mk.inj same).1).elim
    · rw [bind_eq_ok_iff] at read
      rcases read with ⟨summary, -, ⟨⟩⟩
      rfl
    · cases read
      rfl

/-- A result is read as none exactly if it is null or the empty text. -/
theorem eq_none_iff_of_stepResult
    {value : Value}
    {result? : Option StepStatus}
    (read : stepResult value = .ok result?) :
    result? = none ↔ value = .null ∨ value = .string "" := by
  cases value with
  | null =>
    cases read
    simp
  | string text =>
    rw [stepResult, bind_eq_ok_iff] at read
    rcases read with ⟨text?, ⟨⟩, read⟩
    split at read
    · simp_all
    · cases read
      simp_all
    · rename_i name notEmpty whole
      cases whole
      split at read
      · cases read
        simpa using notEmpty
      · cases read
  | bool value => cases read
  | number value => cases read
  | array items => cases read
  | object fields => cases read

/-- A step is read without a result exactly if its value shows none. -/
theorem result?_eq_none_iff
    {value : Value}
    (ordered : value.Ordered)
    {result : Step}
    (read : step value = .ok result) :
    result.result? = none ↔ ShowsNoResult value := by
  rw [step, bind_eq_ok_iff] at read
  rcases read with ⟨fields, collected, read⟩
  rw [bind_eq_ok_iff] at read
  rcases read with ⟨kind, -, ⟨⟩⟩
  have slot := sets_result?.foldlM (Record.step.nodup_members ordered)
    (foldlM_members collected)
  unfold ShowsNoResult
  cases shown : (Record.step.members value).lookup "result" with
  | none =>
    rw [shown] at slot
    simpa using slot
  | some shown' =>
    rw [shown] at slot
    simpa using eq_none_iff_of_stepResult slot

/-- What is read for the steps of a document are its step values. -/
theorem mapM_stepValues
    {value : Value}
    (ordered : value.Ordered)
    {document : Document}
    (read : Document.decode value = .ok document) :
    (stepValues value).mapM step = .ok document.steps := by
  rw [Document.decode, bind_eq_ok_iff] at read
  rcases read with ⟨fields, collected, read⟩
  rw [bind_eq_ok_iff] at read
  rcases read with ⟨steps, given, ⟨⟩⟩
  rw [required_eq_ok_iff] at given
  have slot := sets_steps?.foldlM (Record.document.nodup_members ordered)
    (foldlM_members collected)
  rw [given] at slot
  unfold stepValues
  cases shown : (Record.document.members value).lookup "steps" with
  | none =>
    rw [shown] at slot
    cases slot
  | some listed =>
    rw [shown] at slot
    dsimp only at slot
    cases listedSteps : list step listed with
    | error error =>
      rw [listedSteps] at slot
      cases slot
    | ok results =>
      rw [listedSteps] at slot
      cases slot
      rcases exists_items_of_list listedSteps with ⟨items, rfl, all⟩
      exact all

theorem ordered_of_mem_stepValues
    {value step : Value}
    (ordered : value.Ordered)
    (member : step ∈ stepValues value) :
    step.Ordered := by
  unfold stepValues at member
  split at member
  · rename_i items shown
    rcases List.lookup_eq_some_iff.mp shown with ⟨front, behind, fields, -⟩
    have among :
        ("steps", .array items) ∈ Record.document.members value := by
      rw [fields]
      exact List.mem_append_right front (.head behind)
    have inside : (Value.array items).Ordered :=
      Record.document.ordered_of_mem_members ordered among
    cases inside with
    | array inside => exact inside step member
  · cases member

/-- A document shows no result exactly if the values of its steps show
none. -/
theorem unprocessed_iff
    {value : Value}
    (ordered : value.Ordered)
    {document : Document}
    (read : Document.decode value = .ok document) :
    document.Unprocessed ↔
      ∀ step ∈ stepValues value, ShowsNoResult step := by
  have all := mapM_stepValues ordered read
  constructor
  · intro unprocessed shown member
    rcases exists_result_of_mapM all member with ⟨result, among, read⟩
    have inOrder := ordered_of_mem_stepValues ordered member
    exact (result?_eq_none_iff inOrder read).mp (unprocessed result among)
  · intro clean result member
    rcases exists_item_of_mapM all member with ⟨shown, among, read⟩
    have inOrder := ordered_of_mem_stepValues ordered among
    exact (result?_eq_none_iff inOrder read).mpr (clean shown among)

end Decode

/-! ## The early check -/

/-- The value is written as an object. -/
def IsObject (value : Value) : Prop :=
  ∃ fields, value = .object fields

/-- The value of a step states a result, known or not: a text that is not
empty. -/
def StatesResult (step : Value) : Prop :=
  ∃ text,
    (Record.step.members step).lookup "result" = some (.string text) ∧
      text ≠ ""

theorem StatesResult.not_showsNoResult
    {step : Value}
    (states : StatesResult step) :
    ¬ShowsNoResult step := by
  rcases states with ⟨text, found, notEmpty⟩
  intro clean
  rcases clean _ found with isNull | isEmpty
  · cases isNull
  · cases isEmpty
    exact notEmpty rfl

/-- The early check finds the results that objects state. -/
theorem carriesResult_eq_true_iff (step : Value) :
    carriesResult step = true ↔ IsObject step ∧ StatesResult step := by
  cases step with
  | object fields =>
    have object : IsObject (.object fields) := ⟨fields, rfl⟩
    have field : (Value.object fields).field? "result" =
        (Record.step.members (.object fields)).lookup "result" :=
      rfl
    unfold carriesResult StatesResult
    rw [field]
    cases (Record.step.members (.object fields)).lookup "result" with
    | none => simp
    | some result => cases result <;> simp [Value.text?, object]
  | _ => simp [carriesResult, Value.field?, IsObject]

/-- Some object among the steps of an object states a result. -/
def StatesResultInObjects (document : Value) : Prop :=
  IsObject document ∧
    ∃ step ∈ stepValues document, IsObject step ∧ StatesResult step

theorem hasRecordedResult_eq_true_iff (document : Value) :
    hasRecordedResult document = true ↔ StatesResultInObjects document := by
  unfold StatesResultInObjects
  cases document with
  | object fields =>
    have object : IsObject (.object fields) := ⟨fields, rfl⟩
    have field : (Value.object fields).field? "steps" =
        (Record.document.members (.object fields)).lookup "steps" :=
      rfl
    unfold hasRecordedResult stepValues
    rw [field]
    cases (Record.document.members (.object fields)).lookup "steps" with
    | none => simp
    | some listed =>
      cases listed <;>
        simp [Value.items?, object, carriesResult_eq_true_iff]
  | _ => simp [hasRecordedResult, Value.field?, IsObject]

/-- A document that the early check refuses shows a result once it is read. -/
theorem not_unprocessed_of_hasRecordedResult
    {value : Value}
    (ordered : value.Ordered)
    (recorded : hasRecordedResult value = true)
    {document : Document}
    (read : Document.decode value = .ok document) :
    ¬document.Unprocessed := by
  rw [Decode.unprocessed_iff ordered read]
  intro clean
  rcases (hasRecordedResult_eq_true_iff value).mp recorded with
    ⟨-, step, member, -, states⟩
  exact states.not_showsNoResult (clean step member)

namespace Document

/-- A value in order is accepted exactly if the document that is read from it
shows no result. -/
theorem ofValue_eq_ok_iff
    (path : String)
    {value : Value}
    (ordered : value.Ordered)
    (document : Document) :
    ofValue path value = .ok document ↔
      ∃ decoded,
        decode value = .ok decoded ∧
          decoded.Unprocessed ∧ document = { steps := decoded.steps } := by
  unfold ofValue
  constructor
  · intro accepted
    split at accepted
    · cases accepted
    · split at accepted
      · cases accepted
      · rename_i decoded read
        split at accepted
        · rename_i unprocessed
          cases accepted
          exact ⟨decoded, read, unprocessed, rfl⟩
        · cases accepted
  · rintro ⟨decoded, read, unprocessed, rfl⟩
    have overlooked : hasRecordedResult value = false := by
      rw [Bool.eq_false_iff]
      intro recorded
      exact not_unprocessed_of_hasRecordedResult ordered recorded read
        unprocessed
    simp [overlooked, read, unprocessed]

/-- A text is accepted exactly if it is read as a document of which no step
shows a result, whatever the early check finds; and the early check finds
results only where reading fails or shows one.  A text is read as a value in
order, in which the last of the fields of one name counts. -/
theorem ofText_eq_ok_iff (path text : String) :
    (∀ document,
      ofText path text = .ok document ↔
        ∃ value decoded,
          Json.parse text = .ok value ∧
            decode value = .ok decoded ∧
            decoded.Unprocessed ∧
            document = { steps := decoded.steps, summary := {} }) ∧
      (∀ value decoded,
        value.Ordered → decode value = .ok decoded →
          (decoded.Unprocessed ↔
              ∀ step ∈ stepValues value, ShowsNoResult step) ∧
            (hasRecordedResult value = true → ¬decoded.Unprocessed)) ∧
      (∀ value, Json.parse text = .ok value → value.Ordered) ∧
      ∀ fields,
        (Value.object fields).ReadableIn Json.nestingLimit →
          text = Json.print (.object fields) →
            ∃ value,
              Json.parse text = .ok value ∧
                ∀ name,
                  value.field? name =
                    (fields.reverse.lookup name).map Value.inOrder := by
  refine ⟨?_, ?_, ?_, ?_⟩
  · intro document
    unfold ofText
    cases parsed : Json.parse text with
    | error error => simp
    | ok value =>
      have ordered := Json.ordered_of_parse_eq_ok parsed
      simp [ofValue_eq_ok_iff path ordered]
  · intro value decoded ordered read
    refine ⟨Decode.unprocessed_iff ordered read, ?_⟩
    intro recorded
    exact not_unprocessed_of_hasRecordedResult ordered recorded read
  · intro value parsed
    exact Json.ordered_of_parse_eq_ok parsed
  · rintro fields readable rfl
    refine ⟨(Value.object fields).inOrder, Json.parse_print readable, ?_⟩
    intro name
    exact Json.field?_inOrder name fields

end Document

end Scenario
