import Scenario.Proofs.Effects
import Scenario.Proofs.Persistence
import Scenario.Proofs.ResultFile
import Scenario.Runner

/-!
# Scenario files

A scenario file is loaded, run and written to another file, one after the
other.  Loading changes nothing, the run changes what its actions change, and
writing changes one file; so the tree that is left is known from these three,
even if the actions of the scenario have changed its own files.
-/

namespace Scenario

variable {World : Type}

namespace Document

/-- The document of a scenario file, or why there is none, given what reading
the file has come to. -/
def loaded
    (path : String) :
    Except IoError String → Except DocumentError Document
  | .error error => .error (.unreadable path error)
  | .ok text => ofText path text

theorem load_run
    [FileAccess (StateM World)]
    (path : String)
    (world : World) :
    let held := (FileAccess.contents path : StateM World _).run world
    ∃ log,
      (load path : StateM World _).run world =
        ({ value := loaded path held.1, log }, held.2) := by
  unfold load
  rw [run_bind_world]
  generalize (FileAccess.contents path : StateM World _).run world = held
  rcases held with ⟨error | text, after⟩
  · exact ⟨_, rfl⟩
  · exact ⟨_, rfl⟩

end Document

/-- A scenario file is loaded, and run if that has given a document. -/
theorem runScenarioFile_run
    [FileAccess (StateM World)]
    (registry : Registry (StateM World))
    (scenario out : String)
    (world : World) :
    let held := (FileAccess.contents scenario : StateM World _).run world
    ∃ log,
      (runScenarioFile registry scenario out).run world =
        match Document.loaded scenario held.1 with
        | .error error => ({ value := .error (.document error), log }, held.2)
        | .ok document =>
          let run :=
            (Engine.run registry (Sink.jsonFile out) { document }).run held.2
          ({ value := run.1.result.mapError .engine, log }, run.2) := by
  intro held
  rcases Document.load_run scenario world with ⟨log, loaded⟩
  unfold runScenarioFile
  rw [run_bind_world, loaded]
  dsimp only
  rcases Document.loaded scenario held.1 with error | document
  · exact ⟨_, rfl⟩
  · dsimp only
    rw [run_bind_world]
    generalize
      (Engine.run registry (Sink.jsonFile out) { document }).run held.2 = run
    rcases run with ⟨⟨error | outcome, engine, runLog⟩, after⟩
    · exact ⟨_, rfl⟩
    · exact ⟨_, rfl⟩

section

variable
    {scenario : String}
    {host : Host}
    (registry : Registry (StateM Host))
    (out : String)

theorem runScenarioFile_of_unloaded
    {error : DocumentError}
    (load :
      Document.loaded scenario (host.files.contents scenario) =
        .error error) :
    ∃ log,
      (runScenarioFile registry scenario out).run host =
        ({ value := .error (.document error), log }, host) := by
  rcases runScenarioFile_run registry scenario out host with ⟨log, ran⟩
  have refused :
      Document.loaded scenario
          ((FileAccess.contents scenario : StateM Host _).run host).1 =
        .error error :=
    load
  rw [refused] at ran
  exact ⟨log, ran⟩

theorem runScenarioFile_of_loaded
    {document : Document}
    (load :
      Document.loaded scenario (host.files.contents scenario) =
        .ok document) :
    let run := (Engine.run registry (Sink.jsonFile out) { document }).run host
    ∃ log,
      (runScenarioFile registry scenario out).run host =
        ({ value := run.1.result.mapError .engine, log }, run.2) := by
  rcases runScenarioFile_run registry scenario out host with ⟨log, ran⟩
  have given :
      Document.loaded scenario
          ((FileAccess.contents scenario : StateM Host _).run host).1 =
        .ok document :=
    load
  rw [given] at ran
  exact ⟨log, ran⟩

end

namespace Engine

/-- A run that lacks an action leaves the world as its steps have left it. -/
theorem run_fresh_snd_of_invalidAction
    (registry : Registry (StateM World))
    (sink : Sink (StateM World))
    (document : Document)
    (world : World)
    (abandoned :
      ∃ step kind,
        ((run registry sink { document }).run world).1.result =
          .error (.invalidAction step kind)) :
    ((run registry sink { document }).run world).2 =
      ((Run.steps registry document.steps).run world).2 := by
  rcases abandoned with ⟨step, kind, abandoned⟩
  rw [run_fresh_result] at abandoned
  rw [run_fresh_snd]
  split at abandoned
  · next persisted =>
    exact (Ending.returned_ne_invalidAction persisted _ _ _ abandoned).elim
  · next unpersisted => rw [if_neg unpersisted]

/-- A run that gives its document to a file leaves it there, and nothing else
behind its steps; or it returns the error of its sink. -/
theorem run_fresh_jsonFile
    (registry : Registry (StateM Host))
    (out : String)
    (document : Document)
    (host : Host)
    (persisted : (record registry document host).ending.IsPersisted) :
    let toFile : Sink (StateM Host) := Sink.jsonFile out
    let run := (Engine.run registry toFile { document }).run host
    let ran := (Run.steps registry document.steps).run host
    match ran.2.files.replace ran.2.second out run.1.engine.document.text with
    | .error error =>
      run.1.result = .error (.persist { path := out, error }) ∧ run.2 = ran.2
    | .ok files =>
      run.1.result = ran.1.ending.result ∧
        run.2.files = files ∧
        ∃ place,
          ran.2.files.Written files out run.1.engine.document.text place := by
  intro toFile run ran
  have left :
      run.1.engine.document = (record registry document host).document :=
    run_fresh_document registry toFile document host
  have result : run.1.result = _ :=
    run_fresh_result registry toFile document host
  have after : run.2 = _ := run_fresh_snd registry toFile document host
  have ending : ran.1.ending = _ := ending_steps_run registry document host
  rcases Sink.jsonFile_run out (record registry document host).document ran.2
    with ⟨log, written⟩
  rw [if_pos persisted] at result after
  dsimp only [toFile] at result after
  rw [written] at result after
  rw [result, after, left, ending]
  rcases replaced :
      ran.2.files.replace ran.2.second out
        (record registry document host).document.text with error | files
  · dsimp only
    exact ⟨rfl, rfl⟩
  · exact ⟨rfl, rfl, FileTree.exists_written_of_replace replaced⟩

end Engine

/-- Whatever a scenario does to its own files: a file that is not loaded changes
nothing, a run that lacks an action leaves what its calls have left, and any
other run leaves that and its document in one file, or the error of its sink. -/
theorem runScenarioFile_leaves (scenario out : String) (host : Host) :
    let registry : Registry (StateM Host) := BuiltIn.registry
    let toFile : Sink (StateM Host) := Sink.jsonFile out
    let done := (runScenarioFile registry scenario out).run host
    match Document.loaded scenario (host.files.contents scenario) with
    | .error error => done.1.value = .error (.document error) ∧ done.2 = host
    | .ok document =>
      let run := ((Engine.run registry toFile { document }).run host).1
      let ran := (Run.steps registry document.steps).run host
      let journal :=
        ((Engine.run registry.journaled toFile.journaled { document }).run
          { world := host }).2
      done.1.value = run.result.mapError .engine ∧
        ran.2 = registry.afterCalls journal.calls host ∧
        ((∃ step kind, run.result = .error (.invalidAction step kind)) →
          journal.events = journal.calls.map .called ∧ done.2 = ran.2) ∧
        ((∀ step kind, run.result ≠ .error (.invalidAction step kind)) →
          let text := run.engine.document.text
          match ran.2.files.replace ran.2.second out text with
          | .error error =>
            run.result = .error (.persist { path := out, error }) ∧
              done.2 = ran.2
          | .ok files =>
            run.result = ran.1.ending.result ∧
              done.2.files = files ∧
              ∃ place, ran.2.files.Written files out text place) := by
  intro registry toFile done
  dsimp only [done]
  rcases load : Document.loaded scenario (host.files.contents scenario) with
    error | document
  · rcases runScenarioFile_of_unloaded registry out load with ⟨log, ran⟩
    rw [ran]
    exact ⟨rfl, rfl⟩
  · rcases runScenarioFile_of_loaded registry out load with ⟨log, ran⟩
    rw [ran]
    have once := Engine.run_fresh_persistsOnce registry toFile document host
    refine ⟨rfl, Engine.steps_run_snd registry toFile document host, ?_, ?_⟩
    · intro abandoned
      exact ⟨once.unpersisted abandoned,
        Engine.run_fresh_snd_of_invalidAction registry toFile document host
          abandoned⟩
    · intro registered
      have persisted :=
        Engine.run_fresh_isPersisted registry toFile document host registered
      exact Engine.run_fresh_jsonFile registry out document host persisted

end Scenario
