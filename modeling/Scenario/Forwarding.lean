import Scenario.Action

/-!
# Forwarding

Between two steps of a run, the first hands arguments on to the second.  What
it hands on depends on the kinds of both; where it lands, on the kind of the
second alone.  The *base* is the result of the first step, as a list of one
argument, or of none if the result is empty.

| current     | next      | forwarded                                    |
|-------------|-----------|----------------------------------------------|
| change time | condition | the base, then the current arguments         |
| change time | other     | the current arguments                        |
| other       | condition | a change time looked up for the base, the base |
| other       | other     | the base                                     |

Forwarded arguments stand in front of those configured for a step, except in a
condition, which keeps its two configured bounds first.
-/

namespace Scenario

/-- What a step forwards to the next. -/
inductive Forwarding where
  /-- The base alone. -/
  | result
  /-- The arguments of the step, and not its result. -/
  | configuredArguments
  /-- The base, then the arguments of the step. -/
  | resultThenConfigured
  /-- The change time of what the base names, then the base. -/
  | implicitCTime
deriving DecidableEq, Repr

/-- A result as a list of arguments: an empty result is none. -/
def forwardedBase (result : String) : List String :=
  if result.isEmpty then [] else [result]

namespace Forwarding

/-- The rule for a step and the one that follows it. -/
def forPair (current next : ActionKind) : Forwarding :=
  match current, next with
  | .cTime, .condition => resultThenConfigured
  | .cTime, _ => configuredArguments
  | _, .condition => implicitCTime
  | _, _ => result

/-- A change time is looked up exactly between a step of another kind and a
condition. -/
theorem forPair_eq_implicitCTime_iff (current next : ActionKind) :
    forPair current next = implicitCTime ↔
      current ≠ .cTime ∧ next = .condition := by
  cases current <;> cases next <;> decide

theorem forPair_condition
    {current : ActionKind}
    (other : current ≠ .cTime) :
    forPair current .condition = implicitCTime :=
  (forPair_eq_implicitCTime_iff current .condition).mpr ⟨other, rfl⟩

/-- A step of another kind hands its result alone to a change-time step. -/
theorem forPair_cTime
    {current : ActionKind}
    (other : current ≠ .cTime) :
    forPair current .cTime = result := by
  cases current with
  | cTime => exact (other rfl).elim
  | _ => rfl

variable {m : Type → Type} [Monad m]

/-- The arguments that a step forwards, given its result and its arguments.
The change time of the base is looked up only if the rule asks for it, and the
look-up may fail in its own way. -/
def forward
    {ε : Type}
    (rule : Forwarding)
    (result : String)
    (arguments : List String)
    (changeTime : List String → m (Logged (Except ε String))) :
    m (Logged (Except ε (List String))) :=
  let base := forwardedBase result
  match rule with
  | .result => pure { value := .ok base }
  | .configuredArguments => pure { value := .ok arguments }
  | .resultThenConfigured => pure { value := .ok (base ++ arguments) }
  | .implicitCTime => do
    let reply ← changeTime base
    return { value := reply.value.map (· :: base), log := reply.log }

end Forwarding

/-- Where forwarded arguments land among those of a step. -/
inductive Delivery where
  | append
  | prepend
deriving DecidableEq, Repr

/-- Conditions have forwarded arguments behind their own, all others before. -/
def Delivery.forKind : ActionKind → Delivery
  | .condition => append
  | _ => prepend

/-- The step with forwarded arguments delivered to it. -/
def Step.deliver (step : Step) (forwarded : List String) : Step :=
  match Delivery.forKind step.kind with
  | .append => { step with arguments := step.arguments ++ forwarded }
  | .prepend => { step with arguments := forwarded ++ step.arguments }

/-- To deliver nothing changes nothing. -/
@[simp]
theorem Step.deliver_nil (step : Step) : step.deliver [] = step := by
  unfold Step.deliver
  split <;> simp

/-- Delivery does not change what a step asks for. -/
@[simp]
theorem Step.deliver_kind (step : Step) (forwarded : List String) :
    (step.deliver forwarded).kind = step.kind := by
  unfold Step.deliver
  split <;> rfl

/-- Delivery does not change the outcome recorded for a step. -/
@[simp]
theorem Step.deliver_result? (step : Step) (forwarded : List String) :
    (step.deliver forwarded).result? = step.result? := by
  unfold Step.deliver
  split <;> rfl

/-- A condition gets what is delivered behind its own arguments, and any other
step before them. -/
theorem Step.deliver_arguments (step : Step) (forwarded : List String) :
    (step.deliver forwarded).arguments =
      if step.kind = .condition then step.arguments ++ forwarded
      else forwarded ++ step.arguments := by
  unfold Step.deliver Delivery.forKind
  cases step.kind <;> rfl

/-- A step without arguments of its own is performed on what it is handed. -/
theorem Step.deliver_arguments_of_unconfigured
    {step : Step}
    (unconfigured : step.arguments = [])
    (forwarded : List String) :
    (step.deliver forwarded).arguments = forwarded := by
  rw [Step.deliver_arguments, unconfigured, List.nil_append,
    List.append_nil, ite_self]

end Scenario
