import Scenario.Proofs.Persistence

/-!
# Engines run once

The first run of an engine ends in a final state, whatever its actions and its
sink do, and the move to that state is one that the tracker admits.  From then
on an engine refuses to run: nothing is called, and nothing changes.
-/

namespace Scenario

/-- Run an engine so many times, one run after the other. -/
def Engine.runs
    {m : Type → Type}
    [Monad m]
    (registry : Registry m)
    (sink : Sink m) :
    Nat → Engine → m (List EngineRun)
  | 0, _ => return []
  | count + 1, engine => do
    let first ← run registry sink engine
    let later ← runs registry sink count first.engine
    return first :: later

variable {World : Type}

/-- What a run of an engine gives that has run before. -/
def Engine.refused (engine : Engine) : EngineRun where
  result := .error (.transition (.alreadyStarted engine.state))
  engine

/-- A result, as the steps decide it, fits the state in which the run is
over. -/
def RunState.Fits : RunState → Except EngineError Outcome → Prop
  | .completed, .ok .completed => True
  | .stoppedAtFalseCondition, .ok (.stoppedAtFalseCondition _) => True
  | .stoppedAtFailure, .error (.stepFailed ..) => True
  | .stoppedAtFailure, .error (.invalidAction ..) => True
  | _, _ => False

theorem Ending.state_fits_result (ending : Ending) :
    ending.state.Fits ending.result := by
  cases ending <;> trivial

theorem Ending.result_ne_transition
    (ending : Ending)
    (error : TransitionError) :
    ending.result ≠ .error (.transition error) := by
  cases ending <;> simp [result]

namespace Engine

/-- An engine whose run is over refuses to run, without any effect. -/
theorem run_of_isFinal
    {m : Type → Type}
    [Monad m]
    (registry : Registry m)
    (sink : Sink m)
    {engine : Engine}
    (finished : engine.state.IsFinal) :
    run registry sink engine = pure engine.refused := by
  rw [run, RunTracker.start_of_isFinal finished]
  rfl

theorem runs_of_isFinal
    (registry : Registry (StateM World))
    (sink : Sink (StateM World))
    {engine : Engine}
    (finished : engine.state.IsFinal)
    (count : Nat)
    (world : World) :
    (runs registry sink count engine).run world =
      (List.replicate count engine.refused, world) := by
  induction count with
  | zero => rfl
  | succ count induction =>
    rw [runs, run_of_isFinal registry sink finished]
    simp only [run_bind_world, run_pure_world]
    rw [refused, induction]
    rfl

theorem isFinal_run_fresh
    (registry : Registry (StateM World))
    (sink : Sink (StateM World))
    (document : Document)
    (world : World) :
    ((run registry sink { document }).run world).1.engine.state.IsFinal := by
  rw [run_fresh_state]
  exact Ending.state_isFinal _

/-- All runs of an engine but the first are refused. -/
theorem runs_fresh
    (registry : Registry (StateM World))
    (sink : Sink (StateM World))
    (document : Document)
    (world : World)
    (count : Nat) :
    let first := (run registry sink { document }).run world
    (runs registry sink (count + 1) { document }).run world =
      (first.1 :: List.replicate count first.1.engine.refused, first.2) := by
  intro first
  have finished := isFinal_run_fresh registry sink document world
  rw [runs]
  simp only [run_bind_world, run_pure_world]
  rw [runs_of_isFinal registry sink finished]

/-- An engine runs once: its first run leaves it in the final state that fits
what the steps have decided, and every later run is refused and does
nothing. -/
theorem runs_fresh_refused
    (registry : Registry (StateM World))
    (sink : Sink (StateM World))
    (document : Document)
    (world : World)
    (count : Nat) :
    let first := (run registry sink { document }).run world
    let decided :=
      ((Run.steps registry document.steps).run world).1.ending.result
    (∀ error, first.1.result ≠ .error (.transition error)) ∧
      first.1.engine.state.IsFinal ∧
      first.1.engine.state.Fits decided ∧
      (first.1.result = decided ∨
        ∃ refusal, first.1.result = .error (.persist refusal)) ∧
      (runs registry sink (count + 1) { document }).run world =
        (first.1 ::
            List.replicate count {
              result :=
                .error (.transition (.alreadyStarted first.1.engine.state))
              engine := first.1.engine },
          first.2) ∧
      ((runs registry.journaled sink.journaled (count + 1)
          { document }).run { world }).2 =
        ((run registry.journaled sink.journaled { document }).run
          { world }).2 := by
  intro first decided
  have refused : first.1.result = _ ∨ _ :=
    run_fresh_refused registry sink document world
  have fits : first.1.engine.state.Fits decided := by
    dsimp only [first, decided]
    rw [run_fresh_state, ending_steps_run]
    exact Ending.state_fits_result _
  have again := runs_fresh registry sink document world count
  have journaled :=
    runs_fresh registry.journaled sink.journaled document { world } count
  rw [← ending_steps_run] at refused
  refine ⟨?_, isFinal_run_fresh registry sink document world, fits, ?_, again,
    congrArg Prod.snd journaled⟩
  · intro error transition
    rcases refused with result | ⟨-, refusal, result⟩
    · rw [result] at transition
      exact Ending.result_ne_transition _ _ transition
    · rw [result] at transition
      cases transition
  · rcases refused with result | ⟨-, refusal, result⟩
    · exact Or.inl result
    · exact Or.inr ⟨refusal, result⟩

end Engine

end Scenario
