import Scenario.Action
import Scenario.Text.Quoted

/-!
# Registries

A registry says which action answers to a kind.  A kind has at most one
action: registering another one replaces it and leaves all other kinds alone.
-/

namespace Scenario

/-- The actions known to a run. -/
structure Registry (m : Type → Type) where
  /-- The action of a kind. -/
  find? : ActionKind → Option (Action m)

namespace Registry

variable {m : Type → Type}

/-- The registry without actions. -/
def empty : Registry m where
  find? _ := none

/-- The registry with the action of one kind set. -/
def register
    (registry : Registry m)
    (kind : ActionKind)
    (action : Action m) :
    Registry m where
  find? asked := if asked = kind then some action else registry.find? asked

/-- The registry with a list of actions registered one after the other. -/
def registerAll
    (registry : Registry m)
    (actions : List (ActionKind × Action m)) :
    Registry m :=
  actions.foldl (fun registry entry => registry.register entry.1 entry.2)
    registry

/-- The kinds that have an action, in the order of their names. -/
def kinds (registry : Registry m) : List ActionKind :=
  (ActionKind.all.filter fun kind => (registry.find? kind).isSome).mergeSort
    fun left right => left.name ≤ right.name

/-- The registry as it is shown in messages. -/
def text (registry : Registry m) : String :=
  "ActionRegistry \x7b kinds: " ++
    Text.quotedList (registry.kinds.map ActionKind.name) ++ " \x7d"

@[simp]
theorem find?_register_self
    (registry : Registry m)
    (kind : ActionKind)
    (action : Action m) :
    (registry.register kind action).find? kind = some action := by
  simp [register]

@[simp]
theorem find?_register_of_ne
    (registry : Registry m)
    {asked kind : ActionKind}
    (different : asked ≠ kind)
    (action : Action m) :
    (registry.register kind action).find? asked = registry.find? asked := by
  simp [register, different]

end Registry

end Scenario
