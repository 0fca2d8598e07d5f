import Scenario.BuiltIn.Condition
import Scenario.BuiltIn.Files
import Scenario.Registry

/-!
# The built-in registry

Every executable kind has a built-in action.
-/

namespace Scenario.BuiltIn

variable {m : Type → Type} [Monad m] [FileAccess m]

/-- The built-in action of a kind. -/
def action? : ActionKind → Option (Action m)
  | .create => some create
  | .remove => some remove
  | .rename => some rename
  | .cTime => some changeTime
  | .write => some write
  | .condition => some condition
  | .unknown => none

/-- The registry of the built-in actions. -/
def registry : Registry m where
  find? := action?

/-- The built-in registry knows exactly the executable kinds. -/
theorem isSome_registry_find?_iff (kind : ActionKind) :
    ((registry : Registry m).find? kind).isSome ↔
      kind ∈ ActionKind.executable := by
  cases kind <;> simp [registry, action?, ActionKind.executable]

end Scenario.BuiltIn
