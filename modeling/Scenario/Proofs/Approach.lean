import Scenario.Proofs.Order

/-!
# Approaches

What a run does before it comes to a step depends on the steps in front and on
the kind of that step, and on nothing behind it.  This part of a run is its
*approach* to the step.  A course splits into an approach and the course of
what is left, and so does its record; the positions in the record of what is
left are those of a run of its own, moved on by the length of the approach.
-/

namespace Scenario

variable {World : Type}

/-- How a run comes to a step. -/
structure Approach where
  /-- The turns of the steps in front. -/
  turns : List Turn
  /-- What the step is handed, if all of them have passed. -/
  handed? : Option (List String)

namespace Run

/-- The approach to a step of the given kind over the steps in front, the first
of which is yet to be handed arguments. -/
def approach
    (registry : Registry (StateM World))
    (kind : ActionKind)
    (forwarded : List String) :
    List Step → StateM World Approach
  | [] => return { turns := [], handed? := some forwarded }
  | current :: rest => do
    let next := (rest.head?.map Step.kind).getD kind
    let turn ← turn registry (current.deliver forwarded) (some next)
    match turn.verdict (some next) with
    | .passed forwarded =>
      let gone ← approach registry kind forwarded rest
      return { gone with turns := turn :: gone.turns }
    | _ => return { turns := [turn], handed? := none }

@[simp]
theorem approach_run_nil
    (registry : Registry (StateM World))
    (kind : ActionKind)
    (forwarded : List String)
    (world : World) :
    (approach registry kind forwarded []).run world =
      ({ turns := [], handed? := some forwarded }, world) :=
  rfl

theorem approach_run_cons
    (registry : Registry (StateM World))
    (kind : ActionKind)
    (forwarded : List String)
    (current : Step)
    (rest : List Step)
    (world : World) :
    let next := (rest.head?.map Step.kind).getD kind
    let taken :=
      (turn registry (current.deliver forwarded) (some next)).run world
    (approach registry kind forwarded (current :: rest)).run world =
      match taken.1.verdict (some next) with
      | .passed forwarded =>
        let gone := (approach registry kind forwarded rest).run taken.2
        ({ gone.1 with turns := taken.1 :: gone.1.turns }, gone.2)
      | _ => ({ turns := [taken.1], handed? := none }, taken.2) := by
  rw [approach]
  simp only [run_bind_world]
  split <;> rfl

theorem map_kind_head?_append_cons
    (front : List Step)
    (step : Step)
    (back : List Step) :
    (front ++ step :: back).head?.map Step.kind =
      some ((front.head?.map Step.kind).getD step.kind) := by
  cases front <;> rfl

/-- A course is an approach to one of its steps, and the course from there if
the step is reached. -/
theorem course_run_append
    (registry : Registry (StateM World))
    (forwarded : List String)
    (front : List Step)
    (step : Step)
    (back : List Step)
    (world : World) :
    let gone := (approach registry step.kind forwarded front).run world
    (course registry forwarded (front ++ step :: back)).run world =
      match gone.1.handed? with
      | none => (gone.1.turns, gone.2)
      | some handed =>
        let told := (course registry handed (step :: back)).run gone.2
        (gone.1.turns ++ told.1, told.2) := by
  induction front generalizing forwarded world with
  | nil => rfl
  | cons current front induction =>
    rw [List.cons_append, course_run_cons, approach_run_cons,
      map_kind_head?_append_cons]
    generalize
      (turn registry (current.deliver forwarded)
        (some ((front.head?.map Step.kind).getD step.kind))).run world = taken
    cases taken.1.verdict
      (some ((front.head?.map Step.kind).getD step.kind)) with
    | passed handed =>
      simp only [induction handed taken.2]
      generalize (approach registry step.kind handed front).run taken.2 = gone
      cases gone.1.handed? <;> rfl
    | conditionFalse => rfl
    | stopped obstacle => rfl

theorem length_approach_le
    (registry : Registry (StateM World))
    (kind : ActionKind)
    (forwarded : List String)
    (front : List Step)
    (world : World) :
    ((approach registry kind forwarded front).run world).1.turns.length ≤
      front.length := by
  induction front generalizing forwarded world with
  | nil => exact Nat.le_refl 0
  | cons current front induction =>
    rw [approach_run_cons]
    split
    · exact Nat.succ_le_succ (induction _ _)
    · exact Nat.succ_le_succ (Nat.zero_le _)

end Run

/-! ## Records behind an approach -/

/-- The ending, with its positions moved on. -/
def Ending.later (count : Nat) : Ending → Ending
  | completed => completed
  | falseCondition position => falseCondition (position + count)
  | failed position error => failed (position + count) error
  | unregistered position kind => unregistered (position + count) kind

/-- The report, with the positions of its ending moved on. -/
def Report.later (count : Nat) (report : Report) : Report :=
  { report with ending := report.ending.later count }

@[simp]
theorem Report.later_after
    (report : Report)
    (step : Step)
    (log : List LogEvent)
    (count : Nat) :
    (report.after step log).later count =
      (report.later count).after step log :=
  rfl

/-- The report behind turns that have passed. -/
def Report.behind (report : Report) (turns : List Turn) : Report :=
  turns.foldr (fun turn report => report.after turn.step []) report

namespace Report

@[simp]
theorem behind_nil (report : Report) : report.behind [] = report :=
  rfl

@[simp]
theorem behind_cons (report : Report) (turn : Turn) (turns : List Turn) :
    report.behind (turn :: turns) = (report.behind turns).after turn.step [] :=
  rfl

/-- Turns that have passed are marked as succeeded, and counted. -/
theorem behind_eq (report : Report) (turns : List Turn) :
    report.behind turns =
      { report with
        steps := turns.map (fun turn => turn.step.succeeded) ++ report.steps
        success := report.success + turns.length } := by
  induction turns with
  | nil => rfl
  | cons turn turns induction =>
    rw [behind_cons, induction]
    rfl

@[simp]
theorem unlogged_behind (report : Report) (turns : List Turn) :
    (report.behind turns).unlogged = report.unlogged.behind turns := by
  induction turns with
  | nil => rfl
  | cons turn turns induction => simp [induction]

end Report

namespace Run

/-- Where a list of steps starts decides the positions in its record, and apart
from the log nothing else. -/
theorem tell_later
    (position count : Nat)
    (turns : List Turn)
    (list : List Step) :
    (tell (position + count) turns list).unlogged =
      ((tell position turns list).later count).unlogged := by
  induction turns generalizing position list with
  | nil => rfl
  | cons turn turns induction =>
    cases list with
    | nil => rfl
    | cons current rest =>
      simp only [tell]
      cases turn.verdict (rest.head?.map Step.kind) with
      | passed handed =>
        have moved := induction (position + 1) rest
        rw [Nat.add_right_comm] at moved
        simp [moved]
      | conditionFalse =>
        simp only [stopFalse, Report.later, Ending.later, Report.unlogged]
      | stopped obstacle =>
        cases obstacle <;>
          simp only [stop, Report.later, Ending.later, Report.unlogged]

/-- The record of turns that an approach has taken goes on with the record of
what is left. -/
theorem tell_append
    {registry : Registry (StateM World)}
    {forwarded handed : List String}
    {front : List Step}
    {step : Step}
    {world : World}
    (reached :
      ((approach registry step.kind forwarded front).run world).1.handed? =
        some handed)
    (position : Nat)
    (turns : List Turn)
    (back : List Step) :
    let gone := ((approach registry step.kind forwarded front).run world).1
    gone.turns.length = front.length ∧
      tell position (gone.turns ++ turns) (front ++ step :: back) =
        (tell (position + front.length) turns (step :: back)).behind
          gone.turns := by
  induction front generalizing forwarded world position with
  | nil => exact ⟨rfl, rfl⟩
  | cons current front induction =>
    rw [approach_run_cons] at reached ⊢
    generalize
      (turn registry (current.deliver forwarded)
        (some ((front.head?.map Step.kind).getD step.kind))).run world =
          taken at *
    cases verdict : taken.1.verdict
      (some ((front.head?.map Step.kind).getD step.kind)) with
    | passed forwarded =>
      simp only [verdict] at reached ⊢
      rcases induction reached (position + 1) with ⟨length, told⟩
      refine ⟨congrArg (· + 1) length, ?_⟩
      simp only [List.cons_append, tell, map_kind_head?_append_cons, verdict,
        told, add_length_cons, Report.behind_cons]
    | conditionFalse =>
      simp only [verdict] at reached
      cases reached
    | stopped obstacle =>
      simp only [verdict] at reached
      cases reached

/-- A run ends in front of a step, whatever stands behind, or it comes to the
step and goes on from there. -/
theorem course_append_cases
    (registry : Registry (StateM World))
    (forwarded : List String)
    (front : List Step)
    (step : Step)
    (world : World) :
    (∃ turns after,
      turns.length ≤ front.length ∧
        ∀ back,
          (course registry forwarded (front ++ step :: back)).run world =
            (turns, after)) ∨
      ∃ turns handed between,
        turns.length = front.length ∧
          ∀ back,
            let told := (course registry handed (step :: back)).run between
            (course registry forwarded (front ++ step :: back)).run world =
                (turns ++ told.1, told.2) ∧
              ∀ position,
                tell position (turns ++ told.1) (front ++ step :: back) =
                  (tell (position + front.length) told.1
                    (step :: back)).behind turns := by
  have course (back : List Step) :=
    course_run_append registry forwarded front step back world
  have few := length_approach_le registry step.kind forwarded front world
  cases reached :
      ((approach registry step.kind forwarded front).run
        world).1.handed? with
  | none =>
    simp only [reached] at course
    exact .inl ⟨_, _, few, course⟩
  | some handed =>
    have told := tell_append reached
    simp only [reached] at course
    exact .inr ⟨_, handed, _, (told 0 [] []).1, fun back =>
      ⟨course back, fun position => (told position _ back).2⟩⟩

end Run

end Scenario
