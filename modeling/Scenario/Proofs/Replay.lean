import Scenario.Host
import Scenario.Proofs.Balance
import Scenario.Proofs.Document.Fresh
import Scenario.Proofs.Document.Text
import Scenario.Proofs.Journal
import Scenario.Runner

/-!
# Documents that have been run

A document that is written and read again is fresh exactly if it carries no
result.  A run marks every step of the document that it persists, on whatever
way it ends, so what it has persisted cannot be run again: loading refuses it
before any action is called, and before anything is written.
-/

namespace Scenario

variable {World : Type}

/-! ## Written and loaded -/

namespace Document

/-- The text of a document is accepted exactly if the document carries no
result; its summary is not kept. -/
theorem ofText_text
    (path : String)
    {document : Document}
    (fits : document.summary.FitsWord) :
    ofText path document.text =
      if document.Unprocessed then
        .ok { steps := document.steps, summary := {} }
      else
        .error .alreadyProcessed := by
  have parsed := parse_text fits
  have read := decode_inOrder_encode document
  have ordered := Json.ordered_of_parse_eq_ok parsed
  rw [ofText, parsed]
  dsimp only
  by_cases unprocessed : document.Unprocessed
  · rw [if_pos unprocessed, ofValue_eq_ok_iff path ordered]
    exact ⟨document.withoutErrorKind, read, unprocessed, rfl⟩
  · have processed : ¬document.withoutErrorKind.Unprocessed := unprocessed
    rw [if_neg unprocessed, ofValue, read]
    dsimp only
    rw [if_neg processed, ite_self]

end Document

/-! ## Loading from a file -/

/-- A scenario file that is refused is not run. -/
theorem runScenarioFile_of_refused
    [FileAccess (StateM World)]
    (registry : Registry (StateM World))
    {scenario : String}
    (out : String)
    {world : World}
    {text : String}
    (held :
      (FileAccess.contents scenario : StateM World _).run world =
        (.ok text, world))
    {error : DocumentError}
    (refused : Document.ofText scenario text = .error error) :
    ∃ log,
      (runScenarioFile registry scenario out).run world =
        ({ value := .error (.document error), log }, world) := by
  simp only [runScenarioFile, Document.load, run_bind_world, held,
    run_pure_world, refused]
  exact ⟨_, rfl⟩

/-- Do something in the world of a journal, without a note of it. -/
def Journal.unnoted
    {α : Type}
    (program : StateM World α) :
    StateM (Journal World) α :=
  fun journal =>
    let done := program journal.world
    (done.1, { journal with world := done.2 })

theorem Journal.unnoted_run
    {α : Type}
    (program : StateM World α)
    (journal : Journal World) :
    (unnoted program).run journal =
      ((program.run journal.world).1,
        { journal with world := (program.run journal.world).2 }) :=
  rfl

/-- Only the calls of actions are noted, and not what they do to files. -/
instance Journal.fileAccess [FileAccess (StateM World)] :
    FileAccess (StateM (Journal World)) where
  create path := unnoted (FileAccess.create path)
  remove path := unnoted (FileAccess.remove path)
  rename path newPath := unnoted (FileAccess.rename path newPath)
  status path := unnoted (FileAccess.status path)
  replace path text := unnoted (FileAccess.replace path text)
  contents path := unnoted (FileAccess.contents path)

/-! ## What a run has persisted -/

/-- The record of a run that is persisted carries a result in every step. -/
theorem Report.Balanced.unprocessed_iff
    {report : Report}
    {total : Nat}
    (balanced : report.Balanced total) :
    report.document.Unprocessed ↔ report.steps = [] := by
  constructor
  · intro unprocessed
    cases steps : report.steps with
    | nil => rfl
    | cons first rest =>
      have member : first ∈ report.steps := by
        rw [steps]
        exact .head rest
      have marked : none ∈ report.steps.map Step.result? := by
        rw [← unprocessed first member]
        exact List.mem_map.mpr ⟨first, member, rfl⟩
      -- Every mark is one of the two outcomes.
      rw [balanced.results_eq, List.mem_append] at marked
      rcases marked with success | failure
      · cases List.eq_of_mem_replicate success
      · cases List.eq_of_mem_replicate failure
  · intro nothing step member
    have impossible : step ∈ report.steps := member
    rw [nothing] at impossible
    cases impossible

/-- The counts of a run fit a word.  A false condition that comes last has the
step behind the end on record. -/
theorem Report.Balanced.fitsWord
    {report : Report}
    {total : Nat}
    (balanced : report.Balanced total)
    (fits : total + 1 < 0x10000000000000000) :
    report.summary.FitsWord := by
  have counted := balanced.success_add_failed
  have length := balanced.length_eq
  have failedStep := balanced.failedStep?_eq
  exact {
    total_lt := by
      dsimp only [summary]
      omega
    success_lt := by
      dsimp only [summary]
      omega
    failed_lt := by
      dsimp only [summary]
      omega
    failedStep_lt := by
      intro step recorded
      rw [Option.mem_def] at recorded
      split at failedStep
      · rw [failedStep.2.1] at recorded
        cases recorded
      · rw [failedStep.1] at recorded
        cases recorded
        omega }

/-- Wherever a scenario file holds the text, to run it ends with the error that
the text is already processed.  No action is called, and the world, with all
its files, stays as it was. -/
def NotReplayed (text : String) : Prop :=
  ∀ (World : Type) [FileAccess (StateM World)]
    (registry : Registry (StateM World))
    (scenario out : String)
    (world : World),
    (FileAccess.contents scenario : StateM World _).run world =
        (.ok text, world) →
      (∃ log,
        (runScenarioFile registry scenario out).run world =
          ({ value := .error (.document .alreadyProcessed), log }, world)) ∧
        ∃ log,
          (runScenarioFile registry.journaled scenario out).run { world } =
            ({ value := .error (.document .alreadyProcessed), log },
              { world, events := [] })

theorem notReplayed_of_refused
    {text : String}
    (refused : ∀ path, Document.ofText path text = .error .alreadyProcessed) :
    NotReplayed text := by
  intro World access registry scenario out world held
  have noted :
      (FileAccess.contents scenario : StateM (Journal World) _).run { world } =
        (.ok text, { world }) := by
    have unnoted := Journal.unnoted_run
      (FileAccess.contents scenario : StateM World _) { world }
    rw [held] at unnoted
    exact unnoted
  have refusedHere := refused scenario
  exact ⟨runScenarioFile_of_refused registry out held refusedHere,
    runScenarioFile_of_refused registry.journaled out noted refusedHere⟩

namespace Engine

/-- What a first run gives to its sink is the record that it leaves. -/
theorem eq_record_of_persisted
    {registry : Registry (StateM World)}
    {sink : Sink (StateM World)}
    {document : Document}
    {world : World}
    {kept : Document}
    {reply : Except PersistError Unit}
    (given :
      .persisted kept reply ∈
        ((run registry.journaled sink.journaled { document }).run
          { world }).2.events) :
    kept = (record registry document world).document ∧
      (record registry document world).Balanced document.size := by
  rw [run_fresh_events, List.nil_append, List.mem_append] at given
  rcases given with called | given
  · rcases List.mem_map.mp called with ⟨call, -, ⟨⟩⟩
  · split at given
    · rename_i persisted
      rw [List.mem_singleton] at given
      cases given
      exact ⟨rfl, record_balanced registry document world persisted⟩
    · cases given

/-- What a run has persisted cannot be run again unless it is empty.  A written
document is accepted again exactly if none of its steps carries a result. -/
theorem run_fresh_not_replayable
    (registry : Registry (StateM World))
    (sink : Sink (StateM World))
    (document : Document)
    (world : World)
    (fits : document.size + 1 < 0x10000000000000000) :
    let journal :=
      ((run registry.journaled sink.journaled { document }).run { world }).2
    (∀ path (written : Document),
      written.summary.FitsWord →
        Document.ofText path written.text =
          if written.Unprocessed then
            .ok { steps := written.steps, summary := {} }
          else
            .error .alreadyProcessed) ∧
      ∀ kept reply,
        .persisted kept reply ∈ journal.events →
          (∀ path,
            Document.ofText path kept.text =
              if kept.steps = [] then .ok { steps := [], summary := {} }
              else .error .alreadyProcessed) ∧
            (kept.steps ≠ [] → NotReplayed kept.text) := by
  intro journal
  refine ⟨fun path written => Document.ofText_text path, ?_⟩
  intro kept reply given
  rcases eq_record_of_persisted given with ⟨left, balanced⟩
  have loaded (path : String) :
      Document.ofText path kept.text =
        if kept.steps = [] then .ok { steps := [], summary := {} }
        else .error .alreadyProcessed := by
    have unprocessed : kept.Unprocessed ↔ kept.steps = [] := by
      rw [left]
      exact balanced.unprocessed_iff
    have keptFits : kept.summary.FitsWord := by
      rw [left]
      exact balanced.fitsWord fits
    rw [Document.ofText_text path keptFits]
    by_cases empty : kept.steps = []
    · rw [if_pos empty, if_pos (unprocessed.mpr empty), empty]
    · rw [if_neg empty, if_neg (mt unprocessed.mp empty)]
  refine ⟨loaded, ?_⟩
  intro marked
  apply notReplayed_of_refused
  intro path
  rw [loaded, if_neg marked]

/-- With two calls to spend on three steps, a run persists a document, and its
text is not run again. -/
theorem run_fresh_not_replayable_budgeted :
    let document : Document := {
      steps := [
        { kind := .create, arguments := ["a.txt"] },
        { kind := .write, arguments := ["one line"] },
        { kind := .remove }] }
    let journal :=
      ((run Registry.budgeted.journaled Sink.accepting.journaled
        { document }).run { world := 2 }).2
    document.size + 1 < 0x10000000000000000 ∧
      ∃ kept reply,
        .persisted kept reply ∈ journal.events ∧ NotReplayed kept.text := by
  intro document journal
  have fits : document.size + 1 < 0x10000000000000000 := by decide
  have given :
      .persisted (record .budgeted document 2).document (.ok ()) ∈
        journal.events := by
    dsimp only [journal]
    rw [run_fresh_events]
    exact List.mem_append_right _ (.head [])
  have marked : (record .budgeted document 2).document.steps ≠ [] := by decide
  refine ⟨fits, _, _, given, ?_⟩
  have refused :=
    (run_fresh_not_replayable .budgeted Sink.accepting document 2 fits).2 _ _
      given
  exact refused.2 marked

end Engine

end Scenario
