import Scenario.Proofs.FirstRun

/-!
# Journals

To speak of the calls that a run makes, and of their order, the world is given
a journal.  Every action then notes in it the call that it answers, and the
sink notes the document that it is given; what they do otherwise stays the
same.  Running with a journal is running without it, and the journal holds the
calls of the course, turn by turn, and behind them the document, if it is given
to the sink at all.
-/

namespace Scenario

variable {World : Type}

/-- Something that a run asks for. -/
inductive Event where
  | called (call : Call)
  | persisted (document : Document) (reply : Except PersistError Unit)

/-- The call that an event stands for, if it does. -/
def Event.call? : Event → Option Call
  | called call => some call
  | persisted .. => none

theorem Event.filterMap_call?_map_called (calls : List Call) :
    (calls.map called).filterMap call? = calls := by
  rw [List.filterMap_map]
  exact List.filterMap_some

/-- A world, and what was asked for in it so far, in order. -/
structure Journal (World : Type) where
  world : World
  events : List Event := []

namespace Journal

/-- The journal with another world and an event added. -/
def note
    (journal : Journal World)
    (world : World)
    (event : Event) :
    Journal World where
  world
  events := journal.events ++ [event]

/-- The calls of actions, in order. -/
def calls (journal : Journal World) : List Call :=
  journal.events.filterMap Event.call?

end Journal

/-- The registry whose actions note every call. -/
def Registry.journaled
    (registry : Registry (StateM World)) :
    Registry (StateM (Journal World)) where
  find? kind :=
    (registry.find? kind).map fun action arguments journal =>
      let answer := action arguments journal.world
      (answer.1,
        journal.note answer.2
          (.called { kind, arguments, reply := answer.1.value }))

/-- The sink that notes every document. -/
def Sink.journaled
    (sink : Sink (StateM World)) :
    Sink (StateM (Journal World)) :=
  fun document journal =>
    let answer := sink document journal.world
    (answer.1,
      journal.note answer.2 (.persisted document answer.1.value))

/-- Asking with a journal is asking without it, with the call noted. -/
theorem Registry.ask_journaled
    (registry : Registry (StateM World))
    (kind : ActionKind)
    (arguments : List String)
    (journal : Journal World) :
    (registry.journaled.ask kind arguments).run journal =
      let asked := (registry.ask kind arguments).run journal.world
      (asked.1, {
        world := asked.2
        events := journal.events ++
          (asked.1.map (Call.mk kind arguments)).toList.map .called }) := by
  cases found : registry.find? kind with
  | none => simp [ask, journaled, found, StateT.run]
  | some action => simp [ask, journaled, found, StateT.run, Journal.note]

namespace Run

theorem turn_journaled
    (registry : Registry (StateM World))
    (current : Step)
    (next? : Option ActionKind)
    (journal : Journal World) :
    (turn registry.journaled current next?).run journal =
      let taken := (turn registry current next?).run journal.world
      (taken.1, {
        world := taken.2
        events := journal.events ++ taken.1.calls.map .called }) := by
  rw [turn_run, turn_run, Registry.ask_journaled]
  generalize
    (registry.ask current.kind current.arguments).run journal.world = own
  rcases own with ⟨_ | (error | result), world⟩
  · simp [Turn.calls, Turn.ownCall?, Turn.lookupCall?]
  · simp [Turn.calls, Turn.ownCall?, Turn.lookupCall?]
  · cases next? with
    | none => simp [Turn.calls, Turn.ownCall?, Turn.lookupCall?]
    | some next =>
      by_cases due : Forwarding.forPair current.kind next = .implicitCTime
      · simp [due, Registry.ask_journaled, Turn.calls, Turn.ownCall?,
          Turn.lookupCall?]
      · simp [due, Turn.calls, Turn.ownCall?, Turn.lookupCall?]

/-- A course with a journal is the course without it, with its calls noted. -/
theorem course_journaled
    (registry : Registry (StateM World))
    (forwarded : List String)
    (list : List Step)
    (journal : Journal World) :
    (course registry.journaled forwarded list).run journal =
      let told := (course registry forwarded list).run journal.world
      (told.1, {
        world := told.2
        events := journal.events ++
          (told.1.flatMap Turn.calls).map .called }) := by
  induction list generalizing forwarded journal with
  | nil => simp
  | cons current rest induction =>
    rw [course_run_cons, course_run_cons, turn_journaled]
    generalize
      (turn registry (current.deliver forwarded)
        (rest.head?.map Step.kind)).run journal.world = taken
    cases taken.1.verdict (rest.head?.map Step.kind) with
    | passed handed => simp [induction]
    | conditionFalse => simp
    | stopped obstacle => simp

end Run

namespace Engine

@[simp]
theorem record_journaled
    (registry : Registry (StateM World))
    (document : Document)
    (journal : Journal World) :
    record registry.journaled document journal =
      record registry document journal.world := by
  rw [record, Run.course_journaled]
  rfl

/-- A first run with a journal is the first run without it. -/
theorem run_fresh_journaled
    (registry : Registry (StateM World))
    (sink : Sink (StateM World))
    (document : Document)
    (journal : Journal World) :
    let plain := (run registry sink { document }).run journal.world
    let noted :=
      (run registry.journaled sink.journaled { document }).run journal
    noted.1.result = plain.1.result ∧
      noted.1.engine = plain.1.engine ∧
      noted.2.world = plain.2 := by
  rcases run_fresh registry sink document journal.world with
    ⟨plainLog, plain⟩
  rcases run_fresh registry.journaled sink.journaled document journal with
    ⟨notedLog, noted⟩
  rw [Run.course_journaled, record_journaled] at noted
  simp only [plain, noted]
  split <;> exact ⟨rfl, rfl, rfl⟩

/-- A first run notes the calls of its course, turn by turn, and then the
document that it gives to the sink, if it does. -/
theorem run_fresh_events
    (registry : Registry (StateM World))
    (sink : Sink (StateM World))
    (document : Document)
    (journal : Journal World) :
    let report := record registry document journal.world
    let told := (Run.course registry [] document.steps).run journal.world
    ((run registry.journaled sink.journaled { document }).run
        journal).2.events =
      journal.events ++ (told.1.flatMap Turn.calls).map .called ++
        if report.ending.IsPersisted then
          [.persisted report.document
            ((sink report.document).run told.2).1.value]
        else [] := by
  intro report told
  rcases run_fresh registry.journaled sink.journaled document journal with
    ⟨log, noted⟩
  rw [Run.course_journaled, record_journaled] at noted
  rw [noted]
  split
  · rfl
  · exact (List.append_nil _).symm

/-- The calls that a first run makes are those of its course. -/
theorem run_fresh_calls
    (registry : Registry (StateM World))
    (sink : Sink (StateM World))
    (document : Document)
    (world : World) :
    ((run registry.journaled sink.journaled { document }).run
        { world }).2.calls =
      ((Run.course registry [] document.steps).run world).1.flatMap
        Turn.calls := by
  rw [Journal.calls, run_fresh_events, List.filterMap_append,
    List.filterMap_append, Event.filterMap_call?_map_called]
  split
  · exact List.append_nil _
  · exact List.append_nil _

end Engine

end Scenario
