import Scenario.Program
import Scenario.Proofs.Condition
import Scenario.Proofs.Delivery
import Scenario.Proofs.Endings
import Scenario.Proofs.LastDocument
import Scenario.Proofs.ScenarioFile
import Scenario.Proofs.Replay

/-!
# Exit codes and results

The exit code of the program and the document that it has written tell the same
story.  A false condition is an error among the errors of actions and a success
of the program, so the document must let it be told from every failure: none of
the built-in actions fails with it, and no other error has its text.
-/

namespace Scenario

variable {World : Type}

/-! ## The text of a false condition -/

theorem ActionKind.exists_initial (kind : ActionKind) :
    ∃ initial, kind.name.toList.head? = some initial ∧ initial ≠ 'f' := by
  cases kind <;> exact ⟨_, rfl, by decide⟩

namespace ActionError

/-- Every other text begins with the name of a kind, or says that a timestamp is
not valid. -/
theorem exists_initial_message
    {error : ActionError}
    (other : error ≠ .falseCondition) :
    ∃ front rest initial,
      error.message = front ++ rest ∧
        front.toList.head? = some initial ∧
        initial ≠ 'f' := by
  have named (kind : ActionKind) (rest : String)
      (message : error.message = kind.name ++ rest) :
      ∃ front rest initial,
        error.message = front ++ rest ∧
          front.toList.head? = some initial ∧
          initial ≠ 'f' := by
    rcases kind.exists_initial with ⟨initial, begins, different⟩
    exact ⟨_, rest, initial, message, begins, different⟩
  cases error with
  | falseCondition => exact (other rfl).elim
  | arity kind expected given =>
    apply named kind
      (": invalid argument count, " ++
        s!"expected {expected.text} got {given}")
    rw [← String.append_assoc]
    rfl
  | notFound kind path =>
    apply named kind (" " ++ (path ++ ": file does not exist"))
    rw [← String.append_assoc, ← String.append_assoc]
    rfl
  | invalidTimestamp value error =>
    refine ⟨"invalid timestamp '", value ++ ("': " ++ error.message), 'i', ?_,
      rfl, by decide⟩
    rw [← String.append_assoc, ← String.append_assoc]
    rfl
  | io kind path error =>
    apply named kind (" " ++ (path ++ (": " ++ error.message)))
    rw [← String.append_assoc, ← String.append_assoc, ← String.append_assoc]
    rfl

theorem eq_falseCondition_of_message
    {error : ActionError}
    (message : error.message = "false condition") :
    error = .falseCondition := by
  apply Classical.byContradiction
  intro other
  rcases exists_initial_message other with
    ⟨front, rest, initial, text, begins, different⟩
  have first := congrArg (List.head? ∘ String.toList) (message.symm.trans text)
  dsimp only [Function.comp_def] at first
  rw [String.toList_append, List.head?_append, begins] at first
  cases first
  exact different rfl

end ActionError

namespace BuiltIn

theorem changeTimeOn_ne_falseCondition
    (host : Host)
    (arguments : List String) :
    changeTimeOn host arguments ≠ .error .falseCondition := by
  intro refused
  rcases arguments with _ | ⟨path, _ | ⟨second, rest⟩⟩
  · cases refused
  · rw [changeTimeOn_eq] at refused
    split at refused
    · cases refused
    · split at refused <;> cases refused
  · cases refused

end BuiltIn

/-! ## What the document tells -/

namespace Document

/-- A scenario file with the text of steps without results is loaded. -/
theorem loaded_text
    (path : String)
    {steps : List Step}
    (fresh : ∀ step ∈ steps, step.result? = none) :
    loaded path (.ok (text { steps })) = .ok { steps } := by
  have fits : Summary.FitsWord {} := {
    total_lt := by decide
    success_lt := by decide
    failed_lt := by decide
    failedStep_lt := nofun }
  rw [loaded, ofText_text path fits]
  exact if_pos fresh

/-- Every step of the document has succeeded, and no error is on record. -/
structure TellsCompletion (document : Document) : Prop where
  failedStep?_eq : document.summary.failedStep? = none
  error?_eq : document.summary.error? = none
  succeeded : ∀ step ∈ document.steps, step.result? = some .success

/-- The document has a false condition on record, as the last success. -/
structure TellsFalseCondition (document : Document) : Prop where
  failedStep?_eq :
    document.summary.failedStep? = some (document.summary.success + 1)
  error?_eq : document.summary.error? = some "false condition"

/-- The document has a failure on record, behind its successes. -/
structure TellsFailure (document : Document) : Prop where
  failed_pos : 1 ≤ document.summary.failed
  failedStep?_eq :
    document.summary.failedStep? = some (document.summary.success + 1)
  error?_eq :
    ∃ text, document.summary.error? = some text ∧ text ≠ "false condition"

end Document

namespace Report.Balanced

variable
    {report : Report}
    {total : Nat}
    (balanced : report.Balanced total)

include balanced

theorem summary_balanced : report.summary.Balanced :=
  balanced.success_add_failed.trans balanced.length_eq.symm

theorem tellsCompletion (ending : report.ending = .completed) :
    report.document.TellsCompletion := by
  have counted := balanced.success_add_failed
  have results := balanced.results_eq
  have told := balanced.failedStep?_eq
  rw [ending] at told
  rcases told with ⟨success, failedStep, error, -⟩
  have unfailed : report.failed = 0 := by omega
  rw [unfailed, List.replicate_zero, List.append_nil] at results
  exact {
    failedStep?_eq := failedStep
    error?_eq := error
    succeeded := by
      intro step member
      have marked : step.result? ∈ report.steps.map Step.result? :=
        List.mem_map.mpr ⟨step, member, rfl⟩
      rw [results] at marked
      exact List.eq_of_mem_replicate marked }

theorem tellsFalseCondition
    {position : Nat}
    (ending : report.ending = .falseCondition position) :
    report.document.TellsFalseCondition := by
  have told := balanced.result_agrees
  rw [ending] at told
  rcases told with ⟨success, failedStep, error, -⟩
  rw [success] at failedStep
  exact { failedStep?_eq := failedStep, error?_eq := error }

theorem tellsFailure
    {position : Nat}
    {error : ActionError}
    (ending : report.ending = .failed position error)
    (failed : 1 ≤ report.failed)
    (other : error ≠ .falseCondition) :
    report.document.TellsFailure := by
  have told := balanced.result_agrees
  rw [ending] at told
  rcases told with ⟨success, failedStep, message, -⟩
  rw [success] at failedStep
  exact {
    failed_pos := failed
    failedStep?_eq := failedStep
    error?_eq :=
      ⟨error.message, message,
        mt ActionError.eq_falseCondition_of_message other⟩ }

end Report.Balanced

/-- The document that a run over steps has written keeps account of the run: it
has all steps, with the arguments that were handed on to them; they ask for the
calls that were made; and those are marked as succeeded whose calls say so. -/
structure Run.KeepsAccount
    (registry : Registry (StateM World))
    (configured : List Step)
    (kept : Document)
    (turns : List Turn)
    (calls : List Call) : Prop where
  total_eq : kept.summary.total = configured.length
  balanced : kept.summary.Balanced
  delivered : Delivered configured kept.steps turns
  calls_in_order : CallsInOrder registry kept.steps turns calls
  success_iff :
    ∀ (position : Nat) (step : Step), kept.steps[position]? = some step →
      (step.result? = some .success ↔
        ∃ turn, turns[position]? = some turn ∧ turn.Succeeded)

/-- A record of built-in actions that failed has marked a step as failed, and
has not failed with a false condition. -/
theorem BuiltIn.of_record_failed
    {document : Document}
    {host : Host}
    {position : Nat}
    {error : ActionError}
    (ending :
      (Engine.record registry document host).ending =
        .failed position error) :
    1 ≤ (Engine.record registry document host).failed ∧
      error ≠ .falseCondition := by
  have orderly := Run.course_orderly registry [] document.steps host
  have ends :
      (Engine.record registry document host).ending.verdict? =
        some (.stopped (.failure error)) := by
    rw [ending]
    rfl
  rcases orderly.exists_getLast?_of_verdict? ends with
    ⟨turn, next?, last, stopped⟩
  have never (arguments : List String) (host : Host) :
      (((registry : Registry (StateM Host)).ask .cTime arguments).run host).1 ≠
        some (.error .falseCondition) :=
    mt Option.some.inj (changeTimeOn_ne_falseCondition host arguments)
  exact ⟨orderly.failed_pos ending,
    Run.ne_falseCondition_of_verdict stopped
      (Run.lookup?_ne_of_mem_course never (List.mem_of_getLast? last))⟩

namespace Engine

/-- What a first run has given to its sink, and what the sink has answered. -/
theorem persisted_mem_events_iff
    (registry : Registry (StateM World))
    (sink : Sink (StateM World))
    (document : Document)
    (world : World)
    (kept : Document)
    (answer : Except PersistError Unit) :
    let report := record registry document world
    let after := ((Run.steps registry document.steps).run world).2
    .persisted kept answer ∈
        ((run registry.journaled sink.journaled { document }).run
          { world }).2.events ↔
      report.ending.IsPersisted ∧
        kept = report.document ∧
        answer = ((sink report.document).run after).1.value := by
  intro report after
  have steps : after = _ := (Run.steps_run registry document.steps world).2
  rw [run_fresh_events, List.nil_append, List.mem_append, steps]
  constructor
  · rintro (called | given)
    · rcases List.mem_map.mp called with ⟨call, -, ⟨⟩⟩
    · split at given
      · next persisted =>
        rw [List.mem_singleton] at given
        cases given
        exact ⟨persisted, rfl, rfl⟩
      · cases given
  · rintro ⟨persisted, rfl, rfl⟩
    rw [if_pos persisted]
    exact .inr (.head [])

/-- The document that a first run has given to its sink keeps account of the
run. -/
theorem keepsAccount_of_persisted
    {registry : Registry (StateM World)}
    {sink : Sink (StateM World)}
    {document kept : Document}
    {world : World}
    {answer : Except PersistError Unit} :
    let turns := ((Run.course registry [] document.steps).run world).1
    let journal :=
      ((run registry.journaled sink.journaled { document }).run { world }).2
    .persisted kept answer ∈ journal.events →
      Run.KeepsAccount registry document.steps kept turns journal.calls := by
  intro turns journal given
  rcases (persisted_mem_events_iff registry sink document world kept
    answer).mp given with ⟨persisted, rfl, -⟩
  have balanced := record_balanced registry document world persisted
  have orderly := Run.course_orderly registry [] document.steps world
  have calls : journal.calls = _ :=
    run_fresh_calls registry sink document world
  rw [calls]
  exact {
    total_eq := balanced.length_eq
    balanced := balanced.summary_balanced
    delivered := orderly.delivered 0
    calls_in_order := orderly.callsInOrder 0
    success_iff := by
      intro position step here
      exact orderly.success_getElem?_tell 0 persisted here }

/-- The sink of a first run accepts its document if the path of the file is
vacant in what the steps have left. -/
theorem persisted_mem_events_of_vacant
    {registry : Registry (StateM Host)}
    {out : String}
    {document : Document}
    {host : Host}
    {report : Report}
    (recorded : record registry document host = report)
    (persisted : report.ending.IsPersisted)
    {directory : Location}
    {name : String}
    (vacant :
      ((Run.steps registry document.steps).run host).2.files.Vacant out
        directory name) :
    let toFile : Sink (StateM Host) := Sink.jsonFile out
    .persisted report.document (.ok ()) ∈
      ((run registry.journaled toFile.journaled { document }).run
        { world := host }).2.events := by
  intro toFile
  subst recorded
  refine (persisted_mem_events_iff ..).mpr ⟨persisted, rfl, ?_⟩
  rcases Sink.jsonFile_run_of_placed (vacant.placeFor_eq _) with
    ⟨log, written⟩
  dsimp only [toFile]
  rw [written]

/-- The record of a first run is completed exactly if all steps were
performed. -/
theorem ending_record_eq_completed_iff
    (registry : Registry (StateM World))
    (document : Document)
    (world : World) :
    (record registry document world).ending = .completed ↔
      Run.PerformsAll document.steps
        ((Run.course registry [] document.steps).run world).1 :=
  (Run.course_orderly registry [] document.steps world).ending_eq_completed_iff
    0

/-- The record of a first run ends at a false condition exactly if a step has
met one. -/
theorem ending_record_eq_falseCondition_iff
    (registry : Registry (StateM World))
    (document : Document)
    (world : World) :
    (∃ position,
        (record registry document world).ending = .falseCondition position) ↔
      Run.MeetsFalseCondition
        ((Run.course registry [] document.steps).run world).1 :=
  (Run.course_orderly registry [] document.steps
    world).ending_eq_falseCondition_iff 0

end Engine

/-- A run returns without an error exactly if its steps were all performed, or
stopped at a false condition, and its sink accepts the document. -/
theorem Ending.returned_isOk_iff
    (ending : Ending)
    (answer : Except PersistError Unit) :
    (∃ outcome, ending.returned answer = .ok outcome) ↔
      (ending = .completed ∨ ∃ position, ending = .falseCondition position) ∧
        answer = .ok () := by
  cases answer with
  | error refusal => simp [returned]
  | ok done => cases ending <;> simp [returned, result]

/-- A first run returns without an error exactly if all its steps were
performed, or one has met a false condition, and the sink has accepted a
document. -/
theorem Engine.run_fresh_isOk_iff
    (registry : Registry (StateM World))
    (sink : Sink (StateM World))
    (document : Document)
    (world : World) :
    let turns := ((Run.course registry [] document.steps).run world).1
    let journal :=
      ((run registry.journaled sink.journaled { document }).run { world }).2
    (∃ outcome,
        ((run registry sink { document }).run world).1.result =
          .ok outcome) ↔
      (Run.PerformsAll document.steps turns ∨
          Run.MeetsFalseCondition turns) ∧
        ∃ kept, .persisted kept (.ok ()) ∈ journal.events := by
  intro turns journal
  have given (kept : Document) :
      .persisted kept (.ok ()) ∈ journal.events ↔ _ :=
    persisted_mem_events_iff registry sink document world kept (.ok ())
  rw [run_fresh_result, ← ending_record_eq_completed_iff,
    ← ending_record_eq_falseCondition_iff]
  by_cases persisted : (record registry document world).ending.IsPersisted
  · rw [if_pos persisted, Ending.returned_isOk_iff]
    refine and_congr_right fun _ => ⟨?_, ?_⟩
    · intro accepted
      exact ⟨_, (given _).mpr ⟨persisted, rfl, accepted.symm⟩⟩
    · rintro ⟨kept, accepted⟩
      exact ((given kept).mp accepted).2.2.symm
  · rw [if_neg persisted]
    refine iff_of_false ?_ ?_
    · rcases (Ending.not_isPersisted_iff _).mp persisted with
        ⟨position, kind, abandoned⟩
      rw [abandoned]
      rintro ⟨outcome, ⟨⟩⟩
    · rintro ⟨-, kept, accepted⟩
      exact persisted ((given kept).mp accepted).1

/-- What a run of built-in actions returns agrees with its calls and with the
document that it has written to a file. -/
theorem BuiltIn.run_fresh_tells
    {out : String}
    {document kept : Document}
    {host : Host} :
    let registry : Registry (StateM Host) := registry
    let toFile : Sink (StateM Host) := Sink.jsonFile out
    let run := (Engine.run registry toFile { document }).run host
    let turns := ((Run.course registry [] document.steps).run host).1
    let journal :=
      ((Engine.run registry.journaled toFile.journaled { document }).run
        { world := host }).2
    .persisted kept (.ok ()) ∈ journal.events →
      run.2.files.contents out = .ok kept.text ∧
        ((∃ outcome, run.1.result = .ok outcome) →
          Run.PerformsAll document.steps turns ∧ kept.TellsCompletion ∨
            Run.MeetsFalseCondition turns ∧ kept.TellsFalseCondition) ∧
        ((∃ error, run.1.result = .error error) → kept.TellsFailure) := by
  intro registry toFile run turns journal given
  rcases (Engine.persisted_mem_events_iff registry toFile document host kept
    (.ok ())).mp given with ⟨persisted, rfl, answered⟩
  have balanced := Engine.record_balanced registry document host persisted
  have result : run.1.result = _ :=
    Engine.run_fresh_result registry toFile document host
  have after : run.2 = _ := Engine.run_fresh_snd registry toFile document host
  rw [if_pos persisted, ← answered] at result
  rw [if_pos persisted] at after
  refine ⟨?_, ?_, ?_⟩
  · rw [after]
    exact Sink.contents_of_jsonFile answered.symm
  · rw [result, Ending.returned_isOk_iff]
    rintro ⟨completed | ⟨position, stopped⟩, -⟩
    · exact .inl
        ⟨(Engine.ending_record_eq_completed_iff ..).mp completed,
          balanced.tellsCompletion completed⟩
    · exact .inr
        ⟨(Engine.ending_record_eq_falseCondition_iff ..).mp ⟨_, stopped⟩,
          balanced.tellsFalseCondition stopped⟩
  · rw [result]
    rintro ⟨error, returned⟩
    cases failed : (Engine.record registry document host).ending with
    | completed =>
      rw [failed] at returned
      cases returned
    | falseCondition position =>
      rw [failed] at returned
      cases returned
    | failed position cause =>
      rcases of_record_failed failed with ⟨marked, other⟩
      exact balanced.tellsFailure failed marked other
    | unregistered position kind =>
      rw [failed] at persisted
      exact persisted.elim

/-! ## The program -/

namespace Program

section

variable
    {arguments : List String}
    {options : Options}
    (accepted : CommandLine.read arguments = .ok (.run options))
    (filterText? : Option String)
    (host : Host)

include accepted

/-- The program that has read its options checks them and runs the scenario
file, and exits by what that has come to. -/
theorem run_of_options :
    let done := (run arguments filterText? : StateM Host _).run host
    match options.check with
    | .error _ => done.1.exitCode = 1 ∧ done.2 = host
    | .ok () =>
      let ran :=
        (runScenarioFile BuiltIn.registry options.scenario
          options.out : StateM Host _).run host
      done.1.exitCode = (match ran.1.value with | .ok _ => 0 | .error _ => 1) ∧
        done.2 = ran.2 := by
  dsimp only
  unfold run
  rw [accepted]
  dsimp only
  rw [run_bind_world]
  unfold runOptions
  rcases options.check with error | _
  · exact ⟨rfl, rfl⟩
  · dsimp only
    rw [run_bind_world]
    generalize
      (runScenarioFile BuiltIn.registry options.scenario
        options.out : StateM Host _).run host = ran
    rcases ran with ⟨⟨error | outcome, log⟩, after⟩
    · exact ⟨rfl, rfl⟩
    · exact ⟨rfl, rfl⟩

/-- A scenario that is refused changes nothing. -/
theorem run_of_refused
    (refused :
      options.check ≠ .ok () ∨
        ∃ error,
          Document.loaded options.scenario
              (host.files.contents options.scenario) = .error error) :
    let done := (run arguments filterText? : StateM Host _).run host
    done.1.exitCode = 1 ∧ done.2 = host := by
  have read := run_of_options accepted filterText? host
  cases checked : options.check with
  | error error =>
    rw [checked] at read
    exact read
  | ok passed =>
    rcases refused with unchecked | ⟨error, load⟩
    · exact (unchecked checked).elim
    · rcases runScenarioFile_of_unloaded BuiltIn.registry options.out load
        with ⟨log, ran⟩
      rw [checked, ran] at read
      exact read

section

variable
    {document : Document}
    (checked : options.check = .ok ())
    (load :
      Document.loaded options.scenario
          (host.files.contents options.scenario) = .ok document)

include checked load

/-- A scenario that is loaded is run, and the exit code tells whether the run
has returned an error. -/
theorem run_of_loaded :
    let toFile : Sink (StateM Host) := Sink.jsonFile options.out
    let done := (run arguments filterText? : StateM Host _).run host
    let ran := (Engine.run BuiltIn.registry toFile { document }).run host
    done.2 = ran.2 ∧
      (done.1.exitCode = 0 ∨ done.1.exitCode = 1) ∧
      (done.1.exitCode = 0 ↔ ∃ outcome, ran.1.result = .ok outcome) ∧
      (done.1.exitCode = 1 ↔ ∃ error, ran.1.result = .error error) := by
  intro toFile done ran
  have read := run_of_options accepted filterText? host
  rcases runScenarioFile_of_loaded BuiltIn.registry options.out load with
    ⟨log, left⟩
  rw [checked, left] at read
  rcases read with ⟨exit, after⟩
  have exit : done.1.exitCode = _ := exit
  refine ⟨after, ?_⟩
  dsimp only [mapError_ok] at exit
  cases result : ran.1.result with
  | ok outcome =>
    dsimp only [ran, toFile] at result
    rw [result] at exit
    rw [exit]
    simp
  | error error =>
    dsimp only [ran, toFile] at result
    rw [result] at exit
    rw [exit]
    simp

/-- The exit code of a scenario that is loaded agrees with its calls and with
the document that is written. -/
theorem run_tells_of_loaded :
    let registry : Registry (StateM Host) := BuiltIn.registry
    let toFile : Sink (StateM Host) := Sink.jsonFile options.out
    let done := (run arguments filterText? : StateM Host _).run host
    let turns := ((Run.course registry [] document.steps).run host).1
    let journal :=
      ((Engine.run registry.journaled toFile.journaled { document }).run
        { world := host }).2
    (done.1.exitCode = 0 ∨ done.1.exitCode = 1) ∧
      (done.1.exitCode = 0 ↔
        (Run.PerformsAll document.steps turns ∨
            Run.MeetsFalseCondition turns) ∧
          ∃ kept, .persisted kept (.ok ()) ∈ journal.events) ∧
      journal.calls = turns.flatMap Turn.calls ∧
      ∀ kept, .persisted kept (.ok ()) ∈ journal.events →
        done.2.files.contents options.out = .ok kept.text ∧
          Run.KeepsAccount registry document.steps kept turns journal.calls ∧
          (done.1.exitCode = 0 →
            Run.PerformsAll document.steps turns ∧ kept.TellsCompletion ∨
              Run.MeetsFalseCondition turns ∧ kept.TellsFalseCondition) ∧
          (done.1.exitCode = 1 → kept.TellsFailure) := by
  intro registry toFile done turns journal
  rcases run_of_loaded accepted filterText? host checked load with
    ⟨after, either, zero, one⟩
  refine ⟨either, ?_, ?_, ?_⟩
  · exact zero.trans (Engine.run_fresh_isOk_iff registry toFile document host)
  · exact Engine.run_fresh_calls registry toFile document host
  · intro kept given
    rcases BuiltIn.run_fresh_tells given with ⟨contents, told, failed⟩
    have after : done.2 = _ := after
    rw [after]
    exact ⟨contents, Engine.keepsAccount_of_persisted given,
      fun exit => told (zero.mp exit), fun exit => failed (one.mp exit)⟩

end

end

/-- The exit code of the program, the calls that it has made and the document
that it has written tell the same story.  The exit code is zero exactly if a
document was written and either all steps of the scenario were performed or one
has met a false condition; the document keeps account of the calls, and tells of
the one, of the other or else of a failure.  A scenario that is refused changes
nothing. -/
theorem run_tells
    {arguments : List String}
    {options : Options}
    (accepted : CommandLine.read arguments = .ok (.run options))
    (filterText? : Option String)
    (host : Host) :
    let registry : Registry (StateM Host) := BuiltIn.registry
    let toFile : Sink (StateM Host) := Sink.jsonFile options.out
    let done := (run arguments filterText? : StateM Host _).run host
    let loaded :=
      Document.loaded options.scenario (host.files.contents options.scenario)
    let turns (document : Document) :=
      ((Run.course registry [] document.steps).run host).1
    let journal (document : Document) :=
      ((Engine.run registry.journaled toFile.journaled { document }).run
        { world := host }).2
    (done.1.exitCode = 0 ∨ done.1.exitCode = 1) ∧
      (done.1.exitCode = 0 ↔
        options.check = .ok () ∧
          ∃ document,
            loaded = .ok document ∧
              (Run.PerformsAll document.steps (turns document) ∨
                Run.MeetsFalseCondition (turns document)) ∧
              ∃ kept, .persisted kept (.ok ()) ∈ (journal document).events) ∧
      (options.check ≠ .ok () ∨ (∃ error, loaded = .error error) →
        done.2 = host) ∧
      ∀ document, options.check = .ok () → loaded = .ok document →
        (journal document).calls = (turns document).flatMap Turn.calls ∧
          ∀ kept, .persisted kept (.ok ()) ∈ (journal document).events →
            done.2.files.contents options.out = .ok kept.text ∧
              Run.KeepsAccount registry document.steps kept (turns document)
                (journal document).calls ∧
              (done.1.exitCode = 0 →
                Run.PerformsAll document.steps (turns document) ∧
                    kept.TellsCompletion ∨
                  Run.MeetsFalseCondition (turns document) ∧
                    kept.TellsFalseCondition) ∧
              (done.1.exitCode = 1 → kept.TellsFailure) := by
  intro registry toFile done loaded turns journal
  by_cases refused :
      options.check ≠ .ok () ∨ ∃ error, loaded = .error error
  · rcases run_of_refused accepted filterText? host refused with
      ⟨exit, unchanged⟩
    have unloaded (document : Document) :
        ¬(options.check = .ok () ∧ loaded = .ok document) := by
      rintro ⟨checked, load⟩
      rcases refused with unchecked | ⟨error, failed⟩
      · exact unchecked checked
      · cases failed.symm.trans load
    have exit : done.1.exitCode = 1 := exit
    refine ⟨.inr exit, ?_, fun _ => unchanged, ?_⟩
    · rw [exit]
      refine iff_of_false (by decide) ?_
      rintro ⟨checked, document, load, -⟩
      exact unloaded document ⟨checked, load⟩
    · intro document checked load
      exact (unloaded document ⟨checked, load⟩).elim
  · rw [not_or, Classical.not_not] at refused
    rcases refused with ⟨checked, loads⟩
    cases load : loaded with
    | error error => exact (loads ⟨error, load⟩).elim
    | ok document =>
      rcases run_tells_of_loaded accepted filterText? host checked load with
        ⟨either, zero, tells⟩
      refine ⟨either, ?_, ?_, ?_⟩
      · rw [zero]
        constructor
        · intro whole
          exact ⟨checked, document, rfl, whole⟩
        · rintro ⟨-, _, ⟨⟩, whole⟩
          exact whole
      · rintro (unchecked | ⟨error, ⟨⟩⟩)
        exact (unchecked checked).elim
      · rintro _ - ⟨⟩
        exact tells

/-- A file is created, and a condition behind it compares two bounds: it holds,
it does not hold, or one of them is no moment. -/
theorem run_tells_by_bounds :
    let scenario (bounds : List String) : Document := {
      steps := [
        { kind := .create, arguments := ["a.txt"] },
        { kind := .condition, arguments := bounds }] }
    let host (bounds : List String) : Host := {
      files := {
        entries := [
          (["steps.json"], .file (scenario bounds).text.toUTF8 0)] } }
    let written (bounds : List String) (status : StepStatus)
        (summary : Summary) : Document := {
      steps := [
        { kind := .create, arguments := ["a.txt"], result? := some .success },
        { kind := .condition
          arguments := bounds ++ ["1970-01-01 00:00:00", "a.txt"]
          result? := some status }]
      summary }
    let earlier := "2020-01-01 00:00:00"
    let later := "2030-01-01 00:00:00"
    let performed := written [later, earlier] .success {
      total := 2
      success := 2 }
    let stopped := written [earlier, later] .success {
      total := 2
      success := 2
      failedStep? := some 3
      error? := some "false condition"
      errorKind? := some .falseCondition }
    let failed := written ["tomorrow", earlier] .failed {
      total := 2
      success := 1
      failed := 1
      failedStep? := some 2
      error? := some (ActionError.invalidTimestamp "tomorrow" .invalid).message
      errorKind? := some .invalidTimestamp }
    let arguments := ["--scenario", "steps.json"]
    let leaves (bounds : List String) (code : Nat) (kept : Document) : Prop :=
      let done := (run arguments none : StateM Host _).run (host bounds)
      done.1.exitCode = code ∧
        done.2.files.contents "result.json" = .ok kept.text
    CommandLine.read arguments = .ok (.run { scenario := "steps.json" }) ∧
      (leaves [later, earlier] 0 performed ∧ performed.TellsCompletion) ∧
      (leaves [earlier, later] 0 stopped ∧ stopped.TellsFalseCondition) ∧
      leaves ["tomorrow", earlier] 1 failed ∧ failed.TellsFailure := by
  intro scenario host written earlier later performed stopped failed arguments
    leaves
  have accepted :
      CommandLine.read arguments = .ok (.run { scenario := "steps.json" }) :=
    rfl
  have checked : Options.check { scenario := "steps.json" } = .ok () := by rfl
  have load (bounds : List String) :
      Document.loaded "steps.json" ((host bounds).files.contents "steps.json") =
        .ok (scenario bounds) := by
    have located :
        (host bounds).files.locate (Path.ofText "steps.json") =
          .ok ["steps.json"] :=
      FileTree.locate_name rfl ⟨by decide, by decide, by decide⟩ rfl
    rw [FileTree.contents_of_locate rfl located rfl]
    exact Document.loaded_text _ (by simp)
  have vacant (bounds : List String) :
      (host bounds).files.Vacant "a.txt" [] "a.txt" :=
    FileTree.vacant_of_name rfl rfl ⟨by decide, by decide, by decide⟩ rfl
  have stamped :
      FileStatus.stamp? { isDirectory := false, changed := 0, offset := 0 } =
        some "1970-01-01 00:00:00" := by
    decide
  -- What comes of the bounds is on record, and written beside the new file.
  have written_of (bounds : List String) {answer : ActionResult}
      (compared :
        BuiltIn.conditionResult (bounds ++ ["1970-01-01 00:00:00", "a.txt"]) =
          answer) :=
    have isCondition :
        Step.kind { kind := .condition, arguments := bounds } = .condition :=
      rfl
    have recorded :=
      BuiltIn.record_of_create (vacant bounds) stamped isCondition compared
    have free :
        ((Run.steps BuiltIn.registry (scenario bounds).steps : StateM Host
          _).run (host bounds)).2.files.Vacant "result.json" []
          "result.json" := by
      rw [recorded.2]
      exact FileTree.vacant_of_name rfl rfl ⟨by decide, by decide, by decide⟩
        rfl
    And.intro recorded.1 fun persisted =>
      Engine.persisted_mem_events_of_vacant recorded.1 persisted free
  refine ⟨accepted, ?_, ?_, ?_⟩
  · have compared :
        BuiltIn.conditionResult
            ["2030-01-01 00:00:00", "2020-01-01 00:00:00",
              "1970-01-01 00:00:00", "a.txt"] =
          .ok "a.txt" := by
      rfl
    rcases written_of [later, earlier] compared with ⟨recorded, given⟩
    have given : Event.persisted performed (.ok ()) ∈ _ := given trivial
    rcases run_tells accepted none (host [later, earlier]) with
      ⟨-, exits, -, tells⟩
    have performs := (Engine.ending_record_eq_completed_iff ..).mp
      (congrArg Report.ending recorded)
    have exit := exits.mpr ⟨checked, _, load _, .inl performs, _, given⟩
    rcases (tells _ checked (load _)).2 _ given with
      ⟨contents, -, success, -⟩
    rcases success exit with ⟨-, completion⟩ | ⟨-, other⟩
    · exact ⟨⟨exit, contents⟩, completion⟩
    · cases other.error?_eq
  · have compared :
        BuiltIn.conditionResult
            ["2020-01-01 00:00:00", "2030-01-01 00:00:00",
              "1970-01-01 00:00:00", "a.txt"] =
          .error .falseCondition := by
      rfl
    rcases written_of [earlier, later] compared with ⟨recorded, given⟩
    have given : Event.persisted stopped (.ok ()) ∈ _ := given trivial
    rcases run_tells accepted none (host [earlier, later]) with
      ⟨-, exits, -, tells⟩
    have meets := (Engine.ending_record_eq_falseCondition_iff ..).mp
      ⟨_, congrArg Report.ending recorded⟩
    have exit := exits.mpr ⟨checked, _, load _, .inr meets, _, given⟩
    rcases (tells _ checked (load _)).2 _ given with
      ⟨contents, -, success, -⟩
    rcases success exit with ⟨-, other⟩ | ⟨-, told⟩
    · cases other.error?_eq
    · exact ⟨⟨exit, contents⟩, told⟩
  · have compared :
        BuiltIn.conditionResult
            ["tomorrow", "2020-01-01 00:00:00", "1970-01-01 00:00:00",
              "a.txt"] =
          .error (.invalidTimestamp "tomorrow" .invalid) := by
      rfl
    rcases written_of ["tomorrow", earlier] compared with ⟨recorded, given⟩
    have given : Event.persisted failed (.ok ()) ∈ _ := given trivial
    rcases run_tells accepted none (host ["tomorrow", earlier]) with
      ⟨either, -, -, tells⟩
    rcases (tells _ checked (load _)).2 _ given with
      ⟨contents, -, success, failure⟩
    have exit := either.resolve_left fun zero => by
      rcases success zero with ⟨-, other⟩ | ⟨-, other⟩
      · cases other.error?_eq
      · exact absurd other.error?_eq (by decide)
    exact ⟨⟨exit, contents⟩, failure exit⟩

end Program

end Scenario
