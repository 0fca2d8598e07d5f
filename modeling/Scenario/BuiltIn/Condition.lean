import Scenario.Action

/-!
# Conditions

The arguments of a condition are two moments and at least one more argument.
The condition holds if the first moment is strictly later than the second.  Its
result is then the last argument; whatever stands between is carried along and
never compared.
-/

namespace Scenario.BuiltIn

/-- The moment that an argument names. -/
def momentOf (value : String) : Except ActionError Moment :=
  (Moment.ofText value).mapError (.invalidTimestamp value)

/-- The result of a condition. -/
def conditionResult : List String → ActionResult :=
  (Arity.atLeast 3).checking .condition .error fun
    | first :: second :: third :: rest, _ => do
      let first ← momentOf first
      let second ← momentOf second
      if second < first then
        return (third :: rest).getLast (by simp)
      else
        throw .falseCondition

variable {m : Type → Type} [Monad m]

/-- Compare two moments. -/
def condition : Action m :=
  fun arguments => pure { value := conditionResult arguments }

end Scenario.BuiltIn
