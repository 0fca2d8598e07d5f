import Scenario.Proofs.CurrentFile
import Scenario.Proofs.Effects
import Scenario.Proofs.Moment.Text

/-!
# What decides a condition

A condition behind another step is performed on the arguments configured for
it, and behind them on a change time and a file.  Its two bounds are the first
two of these.  So the change time is a bound only if a single one is
configured; with two or more it is carried along and has no say, and with none
there are too few arguments.  A condition that holds gives the file.
-/

namespace Scenario

/-- The moment in local time at which the file that a path names was last
changed, if there is one. -/
def Host.changeMoment? (host : Host) (path : String) : Option Moment :=
  (host.fileStatus? path).bind FileStatus.moment?

/-- The text of the moment is told. -/
theorem Host.changeStamp?_of_changeMoment?
    {host : Host}
    {path : String}
    {moment : Moment}
    (found : host.changeMoment? path = some moment) :
    host.changeStamp? path = some moment.text := by
  rw [changeMoment?, Option.bind_eq_some_iff] at found
  rcases found with ⟨status, named, found⟩
  rw [changeStamp?, named]
  exact FileStatus.stamp?_of_moment? found

namespace BuiltIn

/-- The verdict on two bounds.  The first of them that is no moment is
refused. -/
def verdictOn
    (lower upper : Except ActionError Moment)
    (file : String) :
    ActionResult :=
  match lower, upper with
  | .error error, _ => .error error
  | .ok _, .error error => .error error
  | .ok first, .ok second =>
    if second < first then .ok file else .error .falseCondition

/-- What comes of a condition that is handed a file and the change time told of
the file. -/
def conditionVerdict
    (configured : List String)
    (stamp file : String) :
    ActionResult :=
  match configured with
  | lower :: upper :: _ => verdictOn (momentOf lower) (momentOf upper) file
  | [lower] => verdictOn (momentOf lower) (momentOf stamp) file
  | [] => .error (.arity .condition (.atLeast 3) 2)

@[simp]
theorem momentOf_text (moment : Moment) :
    momentOf moment.text = .ok moment := by
  rw [momentOf, Moment.ofText_text]
  rfl

theorem conditionResult_eq_verdictOn
    (first second third : String)
    {rest : List String}
    {file : String}
    (last : (third :: rest).getLast? = some file) :
    conditionResult (first :: second :: third :: rest) =
      verdictOn (momentOf first) (momentOf second) file := by
  rw [List.getLast?_eq_some_getLast (List.cons_ne_nil third rest),
    Option.some_inj] at last
  rw [← last, conditionResult_cons]
  rcases momentOf first with error | lower
  · rfl
  · rcases momentOf second with error | upper
    · rfl
    · rfl

/-- The bounds are the first two configured, as far as they go. -/
theorem conditionResult_append
    (configured : List String)
    (stamp file : String) :
    conditionResult (configured ++ [stamp, file]) =
      conditionVerdict configured stamp file := by
  match configured with
  | [] => rfl
  | [lower] => exact conditionResult_eq_verdictOn lower stamp _ rfl
  | [lower, upper] => exact conditionResult_eq_verdictOn lower upper _ rfl
  | lower :: upper :: third :: rest =>
    have last : (third :: rest ++ [stamp, file]).getLast? = some file := by
      rw [List.getLast?_append]
      rfl
    exact conditionResult_eq_verdictOn lower upper third last

example :
    (conditionResult ["2024-01-02 00:00:00", "a.txt"]).mapError
        ActionError.message =
      .error "condition: invalid argument count, expected at least 3 got 2" :=
  rfl

/-! ## What a condition is handed -/

/-- A single bound is compared with the moment at which the file was last
changed. -/
theorem conditionVerdict_of_changeMoment?
    (lower : String)
    {host : Host}
    {stamp file : String}
    {changed : Moment}
    (told : host.changeStamp? file = some stamp)
    (found : host.changeMoment? file = some changed) :
    conditionVerdict [lower] stamp file =
      verdictOn (momentOf lower) (.ok changed) file := by
  rw [Host.changeStamp?_of_changeMoment? found, Option.some_inj] at told
  rw [conditionVerdict, ← told, momentOf_text]

/-- A condition is handed the change time of the file of the step in front, and
the file. -/
theorem exists_file_of_handed
    {current : Step}
    {result : String}
    {host after : Host}
    {forwarded : List String}
    (answered :
      ((registry : Registry (StateM Host)).ask current.kind
        current.arguments).run host = (some (.ok result), after))
    (handed :
      (Run.cross registry current result .condition after).handed =
        .ok forwarded) :
    (Run.cross registry current result .condition after).world = after ∧
      ∃ file stamp,
        current.currentFile? = some file ∧
          file ≠ "" ∧
          after.changeStamp? file = some stamp ∧
          forwarded = [stamp, file] := by
  have gives := gives_of_ask answered
  rcases gives.cross_eq .condition with ⟨unchanged, crossed⟩
  rw [if_pos rfl, handed] at crossed
  refine ⟨unchanged, ?_⟩
  cases told : changeTimeOn after (carried current) with
  | error error =>
    rw [told] at crossed
    cases crossed
  | ok stamp =>
    rw [told] at crossed
    cases crossed
    -- A step without a file has nothing of which a change time is told.
    by_cases empty : current.currentFile?.getD "" = ""
    · have nothing : carried current = [] := by
        rw [carried, empty]
        rfl
      rw [nothing] at told
      cases told
    · rcases Option.eq_none_or_eq_some current.currentFile? with
        absent | ⟨file, present⟩
      · rw [absent] at empty
        exact (empty rfl).elim
      · rw [present] at empty
        have only : carried current = [file] :=
          carried_of_named present empty
        rw [only, changeTimeOn_eq_ok_iff] at told
        rw [only]
        exact ⟨file, stamp, present, empty, told, rfl⟩

end BuiltIn

/-- A condition with these arguments configured for it, called on a host behind
the turn at a position, is decided by two bounds.  It is handed a file, and the
change time told of it. -/
structure Run.DecidesCondition
    (turns : List Turn)
    (position : Nat)
    (configured : List String)
    (host : Host)
    (turn : Turn)
    (file stamp : String) : Prop where
  /-- The file is that of the step in front. -/
  carried : turns[position]?.bind (·.step.currentFile?) = some file
  named : file ≠ ""
  told : host.changeStamp? file = some stamp
  arguments_eq : turn.step.arguments = configured ++ [stamp, file]
  reply?_eq :
    turn.reply? = some (BuiltIn.conditionVerdict configured stamp file)
  /-- A single bound is compared with the local time of the change. -/
  single :
    ∀ lower changed,
      configured = [lower] → host.changeMoment? file = some changed →
        turn.reply? =
          some (BuiltIn.verdictOn (BuiltIn.momentOf lower) (.ok changed) file)
  /-- A condition that holds gives the file. -/
  result_eq : ∀ result, turn.reply? = some (.ok result) → result = file

namespace BuiltIn

theorem eq_of_conditionVerdict_eq_ok
    {configured : List String}
    {stamp file result : String}
    (holds : conditionVerdict configured stamp file = .ok result) :
    result = file := by
  have two
      {lower upper : Except ActionError Moment}
      (holds : verdictOn lower upper file = .ok result) :
      result = file := by
    unfold verdictOn at holds
    split at holds
    · cases holds
    · cases holds
    · split at holds
      · exact (Except.ok.inj holds).symm
      · cases holds
  unfold conditionVerdict at holds
  split at holds
  · exact two holds
  · exact two holds
  · cases holds

/-- A condition that a run comes to from another step is decided by two
bounds. -/
theorem decidesCondition_of_reaches
    {start reached : Stage Host}
    {position : Nat}
    (reaches : Stage.Reaches registry start (position + 1) reached)
    (isCondition : reached.current.kind = .condition)
    {own : Step}
    (configured : (start.current :: start.rest)[position + 1]? = some own)
    {turn : Turn}
    (here : (start.told registry)[position + 1]? = some turn) :
    ∃ file stamp,
      Run.DecidesCondition (start.told registry) position own.arguments
        reached.world turn file stamp := by
  rcases reaches.exists_previous with
    ⟨previous, next, result, after, forwarded, comes, following, answered,
      handed, ahead⟩
  have same : next = own := by
    rcases comes.drop_eq with ⟨front, -, dropped, -⟩
    rw [← List.head?_drop, ← List.drop_drop, dropped, following] at configured
    exact Option.some.inj configured
  have called : reached.current = own.deliver forwarded := by
    rw [ahead, ← same]
    rfl
  have kind : own.kind = .condition := by
    rw [← isCondition, called, Step.deliver_kind]
  rw [same, kind] at handed ahead
  rcases exists_file_of_handed answered handed with
    ⟨unchanged, file, stamp, current, named, told, rfl⟩
  have world : reached.world = after := by
    rw [ahead]
    exact unchanged
  have arguments :
      reached.current.arguments = own.arguments ++ [stamp, file] := by
    rw [called, Step.deliver_arguments, if_pos kind]
  have reply :
      ((registry.ask reached.current.kind reached.current.arguments).run
          reached.world).1 =
        some (conditionVerdict own.arguments stamp file) := by
    rw [isCondition, arguments, ← conditionResult_append]
    rfl
  rcases Stage.head?_told registry reached with ⟨lookup?, head⟩
  rcases Stage.head?_told registry previous with ⟨front?, first⟩
  rw [reaches.getElem?_told, head, Option.some_inj] at here
  rw [← here]
  refine ⟨file, stamp, {
    carried := by
      rw [comes.getElem?_told, first]
      exact current
    named
    told := world ▸ told
    arguments_eq := arguments
    reply?_eq := reply
    single := ?_
    result_eq := ?_ }⟩
  · intro lower changed single found
    rw [single, conditionVerdict_of_changeMoment? lower (world ▸ told) found]
      at reply
    exact reply
  · intro result holds
    exact
      eq_of_conditionVerdict_eq_ok (Option.some.inj (reply.symm.trans holds))

end BuiltIn

namespace Engine

/-- The document has on record what the step of a stage was called on. -/
theorem run_fresh_arguments_of_reaches
    {World : Type}
    {registry : Registry (StateM World)}
    (sink : Sink (StateM World))
    {first : Step}
    {rest : List Step}
    {world : World}
    {position : Nat}
    {reached : Stage World}
    (reaches :
      Stage.Reaches registry { current := first, rest, world } position
        reached) :
    let run :=
      ((run registry sink {
        document := { steps := first :: rest } }).run world).1
    run.engine.document.steps[position]?.map Step.arguments =
      some reached.current.arguments := by
  intro run
  rcases Stage.head?_told registry reached with ⟨lookup?, head⟩
  have here := reaches.getElem?_told.trans head
  have orderly := Run.course_orderly registry [] (first :: rest) world
  have recorded :=
    congrArg (Option.map Step.arguments)
      (orderly.unmarked_getElem?_tell 0 here)
  rw [Option.map_map] at recorded
  dsimp only [run]
  rw [run_fresh_steps]
  exact recorded

/-- In the first run of a document with the built-in actions, whatever its sink
does, every condition behind another step is decided by two bounds: those
configured for it, and the change time only if there is a single one. -/
theorem run_fresh_decides_conditions
    (sink : Sink (StateM Host))
    (document : Document)
    (host : Host) :
    let registry : Registry (StateM Host) := BuiltIn.registry
    let run := ((run registry sink { document }).run host).1
    let journal :=
      ((Engine.run registry.journaled sink.journaled { document }).run
        { world := host }).2
    ∃ turns,
      turns.length = run.reached ∧
        run.engine.document.steps.map Step.kind =
          document.steps.map Step.kind ∧
        Run.CallsInOrder registry run.engine.document.steps turns
          journal.calls ∧
        ∀ (position : Nat) (turn : Turn) (own : Step),
          turns[position + 1]? = some turn →
          document.steps[position + 1]? = some own →
          own.kind = .condition →
            let before := (turns.take (position + 1)).flatMap Turn.calls
            ∃ file stamp,
              Run.DecidesCondition turns position own.arguments
                (registry.afterCalls before host) turn file stamp := by
  intro registry run journal
  have orderly := Run.course_orderly registry [] document.steps host
  have steps : run.engine.document.steps = _ :=
    run_fresh_steps registry sink document host
  refine ⟨_, (run_fresh_reached registry sink document host).symm, ?_, ?_,
    ?_⟩
  · rw [steps]
    exact orderly.map_kind_steps_tell 0
  · rw [steps, run_fresh_calls]
    exact orderly.callsInOrder 0
  · intro position turn own here configured isCondition before
    have nonempty : document.steps ≠ [] := by
      intro empty
      rw [empty] at configured
      cases configured
    rcases List.exists_cons_of_ne_nil nonempty with ⟨first, rest, whole⟩
    have told :
        ((Run.course registry [] document.steps).run host).1 =
          Stage.told registry { current := first, rest, world := host } := by
      rw [whole]
      rfl
    dsimp only [before]
    rw [told] at here ⊢
    rw [whole] at configured
    rcases Stage.exists_reaches_of_getElem?_told here with
      ⟨reached, reaches, -⟩
    rw [← reaches.world_eq]
    refine BuiltIn.decidesCondition_of_reaches reaches ?_ configured here
    rcases reaches.drop_eq with ⟨same, handed, dropped, called⟩
    rw [← List.head?_drop, dropped] at configured
    cases configured
    rw [called, Step.deliver_kind, isCondition]

/-- A single bound is compared with the local time: a file is created at
midnight in universal time, which is nine o'clock in its time zone, and five
o'clock is not later. -/
theorem run_fresh_decides_conditions_local_time :
    let next : Step :=
      { kind := .condition, arguments := ["1970-01-01 05:00:00"] }
    let document : Document := {
      steps := [{ kind := .create, arguments := ["a.txt"] }, next] }
    let host : Host := {
      files := { entries := [] }
      zone := fun _ => 32400 }
    let run :=
      ((run BuiltIn.registry Sink.accepting { document }).run host).1
    ∃ turns turn before,
      turns.length = run.reached ∧
        turns[1]? = some turn ∧
        Run.DecidesCondition turns 0 next.arguments before turn "a.txt"
          "1970-01-01 09:00:00" ∧
        turn.reply? = some (.error .falseCondition) := by
  intro next document host run
  have vacant : host.files.Vacant "a.txt" [] "a.txt" :=
    FileTree.vacant_of_name rfl rfl ⟨by decide, by decide, by decide⟩ rfl
  have stamped :
      FileStatus.stamp?
          { isDirectory := false, changed := 0, offset := 32400 } =
        some "1970-01-01 09:00:00" := by
    decide
  have isCondition : next.kind = .condition := rfl
  have ahead := BuiltIn.reaches_of_create vacant stamped isCondition []
  rcases run_fresh_decides_conditions Sink.accepting document host with
    ⟨turns, length, -, ordered, decides⟩
  have inside : 1 < turns.length := by
    rw [length, run_fresh_reached]
    exact ahead.lt_length_told
  have here := List.getElem?_eq_getElem inside
  rcases decides 0 _ next here rfl rfl with ⟨file, stamp, decided⟩
  -- What the condition was called on is what the document has on record.
  have recorded :
      run.engine.document.steps[1]?.map Step.arguments =
        some ["1970-01-01 05:00:00", "1970-01-01 09:00:00", "a.txt"] :=
    run_fresh_arguments_of_reaches Sink.accepting ahead
  rcases ordered.performed 1 _ here with ⟨step, left, -, called⟩
  rw [left, Option.map_some, ← called, decided.arguments_eq] at recorded
  cases recorded
  exact ⟨turns, _, _, length, here, decided, decided.reply?_eq⟩

end Engine

end Scenario
