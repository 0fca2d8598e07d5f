import Scenario.Proofs.Crossing
import Scenario.Proofs.Journal

/-!
# Conduct

What a first run does is told here with its sink set aside: the calls that it
makes, the world that these leave, and the result and the engine as the steps
decide them.  All of it can be read off the course of the steps and its record.
-/

namespace Scenario

variable {World : Type}

/-- What a first run does, its sink aside. -/
structure Conduct (World : Type) where
  /-- The calls of actions, in order. -/
  calls : List Call
  world : World
  result : Except EngineError Outcome
  engine : Engine

namespace Conduct

def state (conduct : Conduct World) : RunState :=
  conduct.engine.state

def steps (conduct : Conduct World) : List Step :=
  conduct.engine.document.steps

def summary (conduct : Conduct World) : Summary :=
  conduct.engine.document.summary

/-- The conduct of a run that has made these calls and keeps this record. -/
def ofReport
    (calls : List Call)
    (world : World)
    (report : Report) :
    Conduct World where
  calls
  world
  result := report.ending.result
  engine := {
    document := report.document
    tracker := { state := report.ending.state } }

section

variable (calls : List Call) (world : World) (report : Report)

@[simp]
theorem ofReport_unlogged :
    ofReport calls world report.unlogged = ofReport calls world report :=
  rfl

@[simp]
theorem calls_ofReport : (ofReport calls world report).calls = calls :=
  rfl

@[simp]
theorem world_ofReport : (ofReport calls world report).world = world :=
  rfl

@[simp]
theorem result_ofReport :
    (ofReport calls world report).result = report.ending.result :=
  rfl

@[simp]
theorem state_ofReport :
    (ofReport calls world report).state = report.ending.state :=
  rfl

@[simp]
theorem steps_ofReport : (ofReport calls world report).steps = report.steps :=
  rfl

@[simp]
theorem summary_ofReport :
    (ofReport calls world report).summary = report.summary :=
  rfl

end

end Conduct

namespace Engine

/-- The conduct of the first run over a list of steps.  The sink keeps the
document and does nothing else. -/
def conduct
    (registry : Registry (StateM World))
    (list : List Step)
    (world : World) :
    Conduct World :=
  let document : Document := { steps := list }
  let left := (run registry Sink.accepting { document }).run world
  let noted :=
    (run registry.journaled Sink.accepting.journaled { document }).run
      { world }
  { calls := noted.2.calls
    world := left.2
    result := left.1.result
    engine := left.1.engine }

theorem conduct_eq
    (registry : Registry (StateM World))
    (list : List Step)
    (world : World) :
    let told := (Run.course registry [] list).run world
    conduct registry list world =
      .ofReport (told.1.flatMap Turn.calls) told.2
        (Run.tell 0 told.1 list) := by
  rcases run_fresh registry Sink.accepting { steps := list } world with
    ⟨log, fresh⟩
  simp only [conduct, run_fresh_calls, fresh]
  split <;> rfl

/-- A run may as well begin with what its first step has been handed. -/
theorem conduct_deliver
    (registry : Registry (StateM World))
    (forwarded : List String)
    (first : Step)
    (rest : List Step)
    (world : World) :
    let told := (Run.course registry forwarded (first :: rest)).run world
    conduct registry (first.deliver forwarded :: rest) world =
      .ofReport (told.1.flatMap Turn.calls) told.2
        (Run.tell 0 told.1 (first :: rest)) := by
  rw [conduct_eq, Run.course_deliver, Run.tell_head 0 _ _ first]

end Engine

end Scenario
