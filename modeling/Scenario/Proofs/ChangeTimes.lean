import Scenario.Proofs.Clock
import Scenario.Proofs.Delivery
import Scenario.Proofs.ResultFile

/-!
# Runs do not depend on change times

The change time of a file goes from step to step in one place only: it is
handed to a condition, behind the arguments configured for it.  A condition
that has its two bounds configured does not look at it, and hands on its file.
So a run in which every condition behind the first step has its bounds goes the
same way on hosts that differ in change times, clocks and time zones alone, and
leaves the same but for the change times that its conditions were handed.
-/

namespace Scenario

/-- Two steps that come of the same configured condition, and differ in the
change time that they were handed behind the configured arguments. -/
structure Step.DiffersInStamp (own one other : Step) : Prop where
  isCondition : own.kind = .condition
  kind_eq : one.kind = own.kind
  otherKind_eq : other.kind = own.kind
  result?_eq : one.result? = other.result?
  arguments_eq :
    ∃ (time otherTime : Int) (file : String),
      one.arguments =
          own.arguments ++ [Moment.textOfSeconds time, file] ∧
        other.arguments =
          own.arguments ++ [Moment.textOfSeconds otherTime, file]

/-- What is handed to a step is the same, or it is handed to a condition with
its bounds configured and differs in the change time. -/
inductive Step.HandedAlike (own : Step) : List String → List String → Prop where
  | same (forwarded) : HandedAlike own forwarded forwarded
  | stamps
      (isCondition : own.kind = .condition)
      (bounded : 2 ≤ own.arguments.length)
      (time otherTime : Int)
      (file : String) :
    HandedAlike own [Moment.textOfSeconds time, file]
      [Moment.textOfSeconds otherTime, file]

/-- The steps that two runs over a list have left are the same, but for the
change times that conditions were handed. -/
def StepsAlike (configured one other : List Step) : Prop :=
  ∀ position : Nat,
    one[position]? = other[position]? ∨
      ∃ own left right,
        configured[position]? = some own ∧
          one[position]? = some left ∧
          other[position]? = some right ∧
          own.DiffersInStamp left right

/-- Two turns in front of a step end alike. -/
inductive Verdict.Alike (next? : Option Step) : Verdict → Verdict → Prop where
  | passed
      {forwarded otherForwarded : List String}
      (handed :
        ∀ next, next? = some next →
          next.HandedAlike forwarded otherForwarded) :
    Alike next? (.passed forwarded) (.passed otherForwarded)
  | conditionFalse : Alike next? .conditionFalse .conditionFalse
  | stopped (obstacle : Obstacle) :
    Alike next? (.stopped obstacle) (.stopped obstacle)

/-! ## What is handed on -/

theorem Step.HandedAlike.deliver
    {own : Step}
    {forwarded otherForwarded : List String}
    (handed : own.HandedAlike forwarded otherForwarded) :
    own.deliver forwarded = own.deliver otherForwarded ∨
      own.DiffersInStamp (own.deliver forwarded)
        (own.deliver otherForwarded) := by
  cases handed with
  | same => exact .inl rfl
  | stamps isCondition bounded time otherTime file =>
    exact .inr {
      isCondition
      kind_eq := own.deliver_kind _
      otherKind_eq := own.deliver_kind _
      result?_eq := by rw [own.deliver_result?, own.deliver_result?]
      arguments_eq := by
        refine ⟨time, otherTime, file, ?_, ?_⟩
        · rw [own.deliver_arguments, if_pos isCondition]
        · rw [own.deliver_arguments, if_pos isCondition] }

namespace BuiltIn

variable
    {one other : Host}
    {changes : Nat}
    {own : Step}
    {forwarded otherForwarded : List String}

/-- A condition with two bounds configured does not look at the change time. -/
theorem conditionVerdict_eq_of_bounded
    {configured : List String}
    (bounded : 2 ≤ configured.length)
    (stamp otherStamp file : String) :
    conditionVerdict configured stamp file =
      conditionVerdict configured otherStamp file := by
  match configured with
  | [] => cases bounded
  | [lower] => simp at bounded
  | lower :: upper :: rest => rfl

theorem answersAlike_ask_of_handed
    (handed : own.HandedAlike forwarded otherForwarded)
    (alike : Host.Alike (changes + 1) one other) :
    let asked (called : Step) (host : Host) :=
      ((registry : Registry (StateM Host)).ask called.kind
        called.arguments).run host
    AnswersAlike own.kind (asked (own.deliver forwarded) one).1
        (asked (own.deliver otherForwarded) other).1 ∧
      Host.Alike changes (asked (own.deliver forwarded) one).2
        (asked (own.deliver otherForwarded) other).2 := by
  intro asked
  cases handed with
  | same =>
    rw [← own.deliver_kind forwarded]
    exact answersAlike_ask alike _ _
  | stamps isCondition bounded time otherTime file =>
    have answered (stamp : String) (host : Host) :
        asked (own.deliver [stamp, file]) host =
          (some (conditionVerdict own.arguments stamp file), host) := by
      dsimp only [asked]
      rw [own.deliver_arguments, if_pos isCondition, own.deliver_kind,
        isCondition, ← conditionResult_append]
      rfl
    rw [answered, answered,
      conditionVerdict_eq_of_bounded bounded (Moment.textOfSeconds time)
        (Moment.textOfSeconds otherTime)]
    exact ⟨.same _, alike.mono (Nat.le_succ changes)⟩

/-- Whatever change time a step is handed, its file is the same. -/
theorem carried_deliver
    (handed : own.HandedAlike forwarded otherForwarded) :
    carried (own.deliver forwarded) = carried (own.deliver otherForwarded) := by
  cases handed with
  | same => rfl
  | stamps isCondition bounded time otherTime file =>
    have current (stamp : String) :
        (own.deliver [stamp, file]).currentFile? = some file := by
      unfold Step.currentFile?
      rw [own.deliver_kind, isCondition, own.deliver_arguments,
        if_pos isCondition, List.getLast?_append]
      rfl
    rw [carried, carried, current, current]

/-- From steps that have given results on hosts alike, the next step is handed
the same but for a change time. -/
theorem verdictAlike_cross
    {called otherCalled next : Step}
    {result otherResult : String}
    {after otherAfter : Host}
    (gives : Gives one after called.kind called.arguments result)
    (otherGives :
      Gives other otherAfter otherCalled.kind otherCalled.arguments
        otherResult)
    (same : carried called = carried otherCalled)
    (alike : Host.Alike changes after otherAfter)
    (bounded : next.kind = .condition → 2 ≤ next.arguments.length) :
    let verdict (handed : Except Obstacle (List String)) : Verdict :=
      match handed with
      | .ok handed => .passed handed
      | .error obstacle => .stopped obstacle
    let crossing := Run.cross registry called result next.kind after
    let otherCrossing :=
      Run.cross registry otherCalled otherResult next.kind otherAfter
    Verdict.Alike (some next) (verdict crossing.handed)
        (verdict otherCrossing.handed) ∧
      crossing.world = after ∧
      otherCrossing.world = otherAfter := by
  intro verdict crossing otherCrossing
  rcases gives.cross_eq next.kind with ⟨unchanged, handed⟩
  rcases otherGives.cross_eq next.kind with ⟨otherUnchanged, otherHanded⟩
  refine ⟨?_, unchanged, otherUnchanged⟩
  dsimp only [crossing, otherCrossing]
  rw [handed, otherHanded, ← same]
  by_cases isCondition : next.kind = .condition
  · rw [if_pos isCondition, if_pos isCondition]
    by_cases unnamed : called.currentFile?.getD "" = ""
    · -- Nothing is told of a file without a name.
      have nothing : carried called = [] := by
        rw [carried, unnamed]
        rfl
      rw [nothing]
      exact .stopped _
    · have file : carried called = [called.currentFile?.getD ""] := by
        rw [carried, forwardedBase_eq, if_neg unnamed]
      have told := answersAlike_changeTimeOn alike (carried called)
      revert told
      rw [file]
      generalize changeTimeOn after _ = answer
      generalize changeTimeOn otherAfter _ = otherAnswer
      intro told
      cases told with
      | same =>
        rcases answer with error | stamp
        · exact .stopped _
        · exact .passed fun _ _ => .same _
      | stamps _ time otherTime =>
        refine .passed ?_
        rintro _ ⟨⟩
        exact .stamps isCondition (bounded isCondition) time otherTime _
  · rw [if_neg isCondition, if_neg isCondition]
    exact .passed fun _ _ => .same _

theorem verdictAlike_turn_of_results
    {called otherCalled : Step}
    {result otherResult : String}
    {after otherAfter : Host}
    (answered :
      ((registry : Registry (StateM Host)).ask called.kind
        called.arguments).run one = (some (.ok result), after))
    (otherAnswered :
      ((registry : Registry (StateM Host)).ask otherCalled.kind
        otherCalled.arguments).run other = (some (.ok otherResult), otherAfter))
    (same : carried called = carried otherCalled)
    (alike : Host.Alike changes after otherAfter)
    {next? : Option Step}
    (bounded :
      ∀ next, next? = some next →
        next.kind = .condition → 2 ≤ next.arguments.length) :
    let kind? := next?.map Step.kind
    let taken := (Run.turn registry called kind?).run one
    let otherTaken := (Run.turn registry otherCalled kind?).run other
    Verdict.Alike next? (taken.1.verdict kind?) (otherTaken.1.verdict kind?) ∧
      Host.Alike changes taken.2 otherTaken.2 := by
  intro kind? taken otherTaken
  dsimp only [taken, otherTaken]
  cases next? with
  | none =>
    rw [Run.turn_run, Run.turn_run, answered, otherAnswered]
    exact ⟨.passed nofun, alike⟩
  | some next =>
    have crossing :=
      verdictAlike_cross (gives_of_ask answered) (gives_of_ask otherAnswered)
        same alike (bounded next rfl)
    dsimp only at crossing
    rcases crossing with ⟨verdicts, unchanged, otherUnchanged⟩
    dsimp only [kind?, Option.map_some]
    rw [Run.turn_run_cross registry called result next.kind answered,
      Run.turn_run_cross registry otherCalled otherResult next.kind
        otherAnswered]
    dsimp only
    rw [Run.verdict_cross, Run.verdict_cross, unchanged, otherUnchanged]
    exact ⟨verdicts, alike⟩

/-- Turns that are handed the same but for a change time end alike on hosts
alike, and leave hosts alike. -/
theorem verdictAlike_turn
    (handed : own.HandedAlike forwarded otherForwarded)
    (alike : Host.Alike (changes + 1) one other)
    {next? : Option Step}
    (bounded :
      ∀ next, next? = some next →
        next.kind = .condition → 2 ≤ next.arguments.length) :
    let kind? := next?.map Step.kind
    let taken := (Run.turn registry (own.deliver forwarded) kind?).run one
    let otherTaken :=
      (Run.turn registry (own.deliver otherForwarded) kind?).run other
    Verdict.Alike next? (taken.1.verdict kind?) (otherTaken.1.verdict kind?) ∧
      Host.Alike changes taken.2 otherTaken.2 := by
  intro kind? taken otherTaken
  have kinds :
      (own.deliver forwarded).kind = (own.deliver otherForwarded).kind := by
    rw [own.deliver_kind, own.deliver_kind]
  have same := carried_deliver handed
  rcases answersAlike_ask_of_handed handed alike with ⟨answers, left⟩
  dsimp only [taken, otherTaken] at answers left ⊢
  cases answered :
      ((registry : Registry (StateM Host)).ask (own.deliver forwarded).kind
        (own.deliver forwarded).arguments).run one with
  | mk reply? after =>
    cases otherAnswered :
        ((registry : Registry (StateM Host)).ask
          (own.deliver otherForwarded).kind
          (own.deliver otherForwarded).arguments).run other with
    | mk otherReply? otherAfter =>
      rw [answered, otherAnswered] at answers left
      cases answers with
      | same =>
        rcases reply? with _ | (error | result)
        · rw [Run.turn_run, Run.turn_run, answered, otherAnswered]
          dsimp only [Turn.verdict]
          rw [kinds]
          exact ⟨.stopped _, left⟩
        · rw [Run.turn_run, Run.turn_run, answered, otherAnswered]
          refine ⟨?_, left⟩
          cases error with
          | falseCondition => exact .conditionFalse
          | _ => exact .stopped _
        · exact verdictAlike_turn_of_results answered otherAnswered same left
            bounded
      | stamps isLookup time otherTime =>
        exact verdictAlike_turn_of_results answered otherAnswered same left
          bounded

end BuiltIn

/-! ## What is left -/

namespace Step.DiffersInStamp

variable
    {own one other : Step}
    (differs : own.DiffersInStamp one other)

include differs

theorem succeeded : own.DiffersInStamp one.succeeded other.succeeded :=
  { differs with result?_eq := rfl }

theorem failed : own.DiffersInStamp one.failed other.failed :=
  { differs with result?_eq := rfl }

end Step.DiffersInStamp

theorem StepsAlike.refl (configured steps : List Step) :
    StepsAlike configured steps steps :=
  fun _ => .inl rfl

theorem StepsAlike.cons
    {own left right : Step}
    {configured one other : List Step}
    (first : left = right ∨ own.DiffersInStamp left right)
    (behind : StepsAlike configured one other) :
    StepsAlike (own :: configured) (left :: one) (right :: other) := by
  intro position
  cases position with
  | zero =>
    rcases first with rfl | differs
    · exact .inl rfl
    · exact .inr ⟨own, left, right, rfl, rfl, rfl, differs⟩
  | succ position => exact behind position

theorem StepsAlike.map_result?
    {configured one other : List Step}
    (alike : StepsAlike configured one other) :
    one.map Step.result? = other.map Step.result? := by
  apply List.ext_getElem?
  intro position
  rw [List.getElem?_map, List.getElem?_map]
  rcases alike position with
    same | ⟨own, left, right, -, here, otherHere, differs⟩
  · rw [same]
  · rw [here, otherHere, Option.map_some, Option.map_some, differs.result?_eq]

/-- Two runs over the same steps have ended at the same place, and have left
the same but for the change times handed to conditions. -/
structure Report.Alike
    (configured : List Step)
    (one other : Report) : Prop where
  ending_eq : one.ending = other.ending
  success_eq : one.success = other.success
  failed_eq : one.failed = other.failed
  steps : StepsAlike configured one.steps other.steps

theorem Report.Alike.after
    {own left right : Step}
    {configured : List Step}
    {one other : Report}
    (first : left = right ∨ own.DiffersInStamp left right)
    (behind : Alike configured one other) :
    Alike (own :: configured) (one.after left []) (other.after right []) where
  ending_eq := behind.ending_eq
  success_eq := congrArg (· + 1) behind.success_eq
  failed_eq := behind.failed_eq
  steps :=
    .cons (first.imp (congrArg Step.succeeded) Step.DiffersInStamp.succeeded)
      behind.steps

section

variable
    {own left right : Step}
    (first : left = right ∨ own.DiffersInStamp left right)
    (position : Nat)
    (configured : List Step)

include first

theorem Run.alike_stopFalse :
    Report.Alike (own :: configured) (stopFalse position [] left configured)
      (stopFalse position [] right configured) where
  ending_eq := rfl
  success_eq := rfl
  failed_eq := rfl
  steps :=
    .cons (first.imp (congrArg Step.succeeded) Step.DiffersInStamp.succeeded)
      (.refl configured _)

theorem Run.alike_stop (obstacle : Obstacle) :
    Report.Alike (own :: configured)
      (stop position [] (left :: configured) obstacle)
      (stop position [] (right :: configured) obstacle) := by
  cases obstacle with
  | failure error =>
    exact {
      ending_eq := rfl
      success_eq := rfl
      failed_eq := rfl
      steps :=
        .cons (first.imp (congrArg Step.failed) Step.DiffersInStamp.failed)
          (.refl configured _) }
  | unregistered kind =>
    exact {
      ending_eq := rfl
      success_eq := rfl
      failed_eq := rfl
      steps := .cons first (.refl configured _) }

end

/-- Courses over the same steps that begin alike on hosts alike stay alike to
their end. -/
theorem BuiltIn.alike_course
    (list : List Step)
    {forwarded otherForwarded : List String}
    (position : Nat)
    {one other : Host}
    (handed :
      ∀ first, list.head? = some first →
        first.HandedAlike forwarded otherForwarded)
    (bounded :
      ∀ step ∈ list.tail,
        step.kind = .condition → 2 ≤ step.arguments.length)
    (alike : Host.Alike list.length one other) :
    let told := (Run.course registry forwarded list).run one
    let otherTold := (Run.course registry otherForwarded list).run other
    told.2.files.untimed = otherTold.2.files.untimed ∧
      told.1.length = otherTold.1.length ∧
      Report.Alike list (Run.tell position told.1 list)
        (Run.tell position otherTold.1 list) := by
  induction list generalizing forwarded otherForwarded position one other with
  | nil =>
    exact ⟨alike.untimed_eq, rfl, rfl, rfl, rfl, .refl [] []⟩
  | cons current rest induction =>
    have here := handed current rfl
    have boundedNext :
        ∀ next, rest.head? = some next →
          next.kind = .condition → 2 ≤ next.arguments.length :=
      fun next following => bounded next (List.mem_of_head? following)
    have turns := verdictAlike_turn here alike boundedNext
    have step := Run.turn_step registry (current.deliver forwarded)
      (rest.head?.map Step.kind) one
    have otherStep := Run.turn_step registry (current.deliver otherForwarded)
      (rest.head?.map Step.kind) other
    have first := here.deliver
    intro told otherTold
    dsimp only [told, otherTold] at turns ⊢
    rw [Run.course_run_cons, Run.course_run_cons]
    revert turns step otherStep
    generalize
      (Run.turn registry (current.deliver forwarded)
        (rest.head?.map Step.kind)).run one = taken
    generalize
      (Run.turn registry (current.deliver otherForwarded)
        (rest.head?.map Step.kind)).run other = otherTaken
    rintro ⟨verdicts, left⟩ step otherStep
    rw [← step, ← otherStep] at first
    dsimp only
    generalize verdict :
      taken.1.verdict (rest.head?.map Step.kind) = ends at verdicts
    generalize otherVerdict :
      otherTaken.1.verdict (rest.head?.map Step.kind) = otherEnds at verdicts
    cases verdicts with
    | passed handedNext =>
      have boundedRest :
          ∀ step ∈ rest.tail,
            step.kind = .condition → 2 ≤ step.arguments.length :=
        fun step behind => bounded step (List.mem_of_mem_tail behind)
      rcases induction (position + 1) handedNext boundedRest left with
        ⟨files, length, behind⟩
      simp only [Run.tell, verdict, otherVerdict, List.length_cons]
      exact ⟨files, congrArg (· + 1) length, behind.after first⟩
    | conditionFalse =>
      simp only [Run.tell, verdict, otherVerdict]
      exact ⟨left.untimed_eq, rfl, Run.alike_stopFalse first position rest⟩
    | stopped obstacle =>
      simp only [Run.tell, verdict, otherVerdict]
      exact ⟨left.untimed_eq, rfl, Run.alike_stop first position rest obstacle⟩

/-- Only a step that was reached behind another one can have been handed a
change time. -/
theorem Run.Delivered.position_of_differsInStamp
    {configured left : List Step}
    {turns : List Turn}
    (delivered : Delivered configured left turns)
    {position : Nat}
    {own one other : Step}
    (before : configured[position]? = some own)
    (after : left[position]? = some one)
    (differs : own.DiffersInStamp one other) :
    0 < position ∧ position < turns.length := by
  apply Classical.byContradiction
  intro elsewhere
  have untouched := delivered.untouched position (by omega)
  rw [before, after, Option.map_some, Option.map_some,
    Option.some_inj] at untouched
  rcases differs.arguments_eq with ⟨time, otherTime, file, longer, -⟩
  rw [longer] at untouched
  have lengths := congrArg List.length untouched
  simp at lengths

/-- Two runs of a document have come to the same end, have marked the same, and
have left the same but for the change times that the conditions among the steps
reached behind the first were handed. -/
structure EngineRun.Alike
    (document : Document)
    (one other : EngineRun) : Prop where
  state_eq : one.engine.state = other.engine.state
  reached_eq : one.reached = other.reached
  summary_eq : one.engine.document.summary = other.engine.document.summary
  results_eq :
    one.engine.document.steps.map Step.result? =
      other.engine.document.steps.map Step.result?
  steps :
    ∀ position : Nat,
      one.engine.document.steps[position]? =
          other.engine.document.steps[position]? ∨
        0 < position ∧ position < one.reached ∧
          ∃ own left right,
            document.steps[position]? = some own ∧
              one.engine.document.steps[position]? = some left ∧
              other.engine.document.steps[position]? = some right ∧
              own.DiffersInStamp left right

/-- Two trees differ in change times, and in what the file holds that a path
leads to in both of them. -/
def FileTree.AlikeBut (path : String) (one other : FileTree) : Prop :=
  one.untimed = other.untimed ∨
    ∃ place,
      one.locate (Path.ofText path) = .ok place ∧
        other.locate (Path.ofText path) = .ok place ∧
        one.untimed.erase place = other.untimed.erase place

/-- The sink that writes files writes any two documents at the same place of
trees alike, or none of them. -/
theorem Sink.jsonFile_alike
    (out : String)
    (document otherDocument : Document)
    {one other : Host}
    (alike : one.files.untimed = other.files.untimed) :
    let kept (document : Document) (host : Host) :=
      (jsonFile out document : StateM Host _).run host
    (kept document one).1.value = (kept otherDocument other).1.value ∧
      FileTree.AlikeBut out (kept document one).2.files
        (kept otherDocument other).2.files := by
  intro kept
  have same :
      one.files.placeFor out document.text =
        other.files.placeFor out otherDocument.text := by
    rw [← one.files.placeFor_untimed, alike, other.files.placeFor_untimed]
    exact other.files.placeFor_eq_of_not_isEmpty out
      document.text_not_isEmpty otherDocument.text_not_isEmpty
  rcases jsonFile_run out document one with ⟨log, written⟩
  rcases jsonFile_run out otherDocument other with ⟨otherLog, otherWritten⟩
  dsimp only [kept]
  rw [written, otherWritten, FileTree.replace_eq, FileTree.replace_eq, ← same]
  rcases opened : one.files.placeFor out document.text with error | place
  · exact ⟨rfl, .inl alike⟩
  · rw [opened] at same
    have leads := (FileTree.placeFor_eq_ok_iff.mp opened).2.1
    have otherLeads := (FileTree.placeFor_eq_ok_iff.mp same.symm).2.1
    refine ⟨rfl, .inr ⟨place, FileTree.locate_insert _ _ leads,
      FileTree.locate_insert _ _ otherLeads, ?_⟩⟩
    dsimp only [Except.map]
    rw [Host.files_advance, Host.files_advance, FileTree.untimed_insert,
      FileTree.untimed_insert, FileTree.erase_insert, FileTree.erase_insert,
      alike]

namespace Engine

section

variable
    {World : Type}
    {registry : Registry (StateM World)}
    {document : Document}
    {one other : World}
    (records :
      Report.Alike document.steps (record registry document one)
        (record registry document other))

include records

theorem run_fresh_alike_of_records
    (sink : Sink (StateM World))
    (length :
      ((Run.course registry [] document.steps).run one).1.length =
        ((Run.course registry [] document.steps).run other).1.length) :
    ((run registry sink { document }).run one).1.Alike document
      ((run registry sink { document }).run other).1 := by
  have left := run_fresh_document registry sink document one
  have otherLeft := run_fresh_document registry sink document other
  have reached := run_fresh_reached registry sink document one
  have orderly := Run.course_orderly registry [] document.steps one
  have results := records.steps.map_result?
  exact {
    state_eq := by
      rw [run_fresh_state, run_fresh_state, records.ending_eq]
    reached_eq := by
      rw [reached, run_fresh_reached, length]
    summary_eq := by
      have sizes := congrArg List.length results
      rw [List.length_map, List.length_map] at sizes
      rw [left, otherLeft]
      dsimp only [Report.document, Report.summary]
      rw [sizes, records.success_eq, records.failed_eq, records.ending_eq]
    results_eq := by
      rw [left, otherLeft]
      exact results
    steps := by
      intro position
      rw [left, otherLeft, reached]
      rcases records.steps position with
        same | ⟨own, step, otherStep, before, here, otherHere, differs⟩
      · exact .inl same
      · rcases (orderly.delivered 0).position_of_differsInStamp before here
          differs with ⟨positive, inside⟩
        exact .inr ⟨positive, inside, own, step, otherStep, before, here,
          otherHere, differs⟩ }

/-- Records that end alike decide the same, unless the sink does not. -/
theorem run_fresh_result_of_records
    (sink : Sink (StateM World))
    (answers :
      ((sink (record registry document one).document).run
          ((Run.steps registry document.steps).run one).2).1.value =
        ((sink (record registry document other).document).run
          ((Run.steps registry document.steps).run other).2).1.value) :
    ((run registry sink { document }).run one).1.result =
      ((run registry sink { document }).run other).1.result := by
  rw [run_fresh_result, run_fresh_result, answers, records.ending_eq]

end

/-- On hosts that differ in change times alone, two first runs of a document
whose conditions behind the first step have their bounds go the same way,
whatever their clocks show meanwhile and whatever their time zones are. -/
theorem run_fresh_alike
    (document : Document)
    (one other : Host)
    (bounded :
      ∀ step ∈ document.steps.tail,
        step.kind = .condition → 2 ≤ step.arguments.length)
    (alike : Host.Alike document.size one other) :
    let registry : Registry (StateM Host) := BuiltIn.registry
    let run (sink : Sink (StateM Host)) (host : Host) :=
      (Engine.run registry sink { document }).run host
    let left (host : Host) :=
      ((Run.steps registry document.steps).run host).2
    let answer (sink : Sink (StateM Host)) (host : Host) :=
      ((sink (run sink host).1.engine.document).run (left host)).1.value
    (left one).files.untimed = (left other).files.untimed ∧
      (∀ sink,
        (run sink one).1.Alike document (run sink other).1 ∧
          (answer sink one = answer sink other →
            (run sink one).1.result = (run sink other).1.result) ∧
          ((∀ kept host, ((sink kept).run host).2 = host) →
            (run sink one).2.files.untimed =
              (run sink other).2.files.untimed)) ∧
      ∀ out,
        let toFile : Sink (StateM Host) := Sink.jsonFile out
        (run toFile one).1.result = (run toFile other).1.result ∧
          (run toFile one).2.files.AlikeBut out (run toFile other).2.files := by
  intro registry run left answer
  have course :=
    BuiltIn.alike_course document.steps 0 (fun _ _ => .same []) bounded alike
  dsimp only at course
  rcases course with ⟨files, length, told⟩
  have records :
      Report.Alike document.steps (record registry document one)
        (record registry document other) :=
    told
  have leaves (host : Host) :
      left host = ((Run.course registry [] document.steps).run host).2 :=
    (Run.steps_run registry document.steps host).2
  have leftAlike : (left one).files.untimed = (left other).files.untimed := by
    rw [leaves, leaves]
    exact files
  refine ⟨leftAlike, ?_, ?_⟩
  · intro sink
    refine ⟨run_fresh_alike_of_records records sink length, ?_, ?_⟩
    · intro answers
      dsimp only [answer, run] at answers
      rw [run_fresh_document, run_fresh_document] at answers
      exact run_fresh_result_of_records records sink answers
    · intro harmless
      dsimp only [run]
      rw [run_fresh_snd, run_fresh_snd, harmless, harmless, ite_self, ite_self]
      exact leftAlike
  · intro out toFile
    have kept :=
      Sink.jsonFile_alike out (record registry document one).document
        (record registry document other).document leftAlike
    refine ⟨run_fresh_result_of_records records toFile kept.1, ?_⟩
    dsimp only [run]
    rw [run_fresh_snd, run_fresh_snd, ← records.ending_eq]
    split
    · exact kept.2
    · exact .inl leftAlike

/-- A run that compares two bounds goes the same way by a clock that stands
still in one time zone, and by one that jumps and is set back in another. -/
theorem run_fresh_alike_set_back :
    let document : Document := {
      steps := [
        { kind := .create, arguments := ["a.txt"] },
        { kind := .condition
          arguments := ["2024-01-02 00:00:00", "2024-01-01 00:00:00"] },
        { kind := .write, arguments := ["one line"] }] }
    let one : Host := { files := { entries := [] } }
    let other : Host := {
      files := { entries := [] }
      clock := 1700000000000000000
      readings := fun number => if number = 0 then -1 else 4102444800000000000
      zone := fun second => if second < 0 then -18000 else 32400 }
    let run (host : Host) :=
      ((Engine.run BuiltIn.registry Sink.accepting { document }).run host).1
    (∀ step ∈ document.steps.tail,
      step.kind = .condition → 2 ≤ step.arguments.length) ∧
      Host.Alike document.size one other ∧
      (run one).Alike document (run other) := by
  intro document one other run
  have bounded :
      ∀ step ∈ document.steps.tail,
        step.kind = .condition → 2 ≤ step.arguments.length := by
    decide
  have alike : Host.Alike document.size one other := {
    untimed_eq := rfl
    dated := ⟨by decide, by decide⟩
    otherDated := ⟨by decide, by decide⟩ }
  exact ⟨bounded, alike,
    ((run_fresh_alike document one other bounded alike).2.1
      Sink.accepting).1⟩

end Engine

end Scenario
