/-!
# Kinds of action

Every step of a scenario names the kind of action it asks for.  There are
seven kinds.  Six of them have an action behind them; `unknown` is a word of
the language that no action answers to, so a step that carries it ends a run.

A kind is read without regard to the case of ASCII letters.  The change-time
kind has two spellings, `c_time` and `ctime`, and is always written `c_time`.
-/

namespace Scenario

/-- A word that names nothing in its vocabulary. -/
inductive NameError where
  | unmatched
deriving DecidableEq, Repr

/-- The text of the error. -/
def NameError.message : NameError → String
  | .unmatched => "Matching variant not found"

/-- What a step asks for. -/
inductive ActionKind where
  | unknown
  | create
  | remove
  | rename
  | cTime
  | write
  | condition
deriving DecidableEq, Repr

namespace ActionKind

/-- All kinds, in the order of their declaration. -/
def all : List ActionKind :=
  [unknown, create, remove, rename, cTime, write, condition]

/-- The kinds that have an action behind them. -/
def executable : List ActionKind :=
  [create, remove, rename, cTime, write, condition]

/-- The canonical spelling, used wherever a kind is written. -/
def name : ActionKind → String
  | unknown => "unknown"
  | create => "create"
  | remove => "remove"
  | rename => "rename"
  | cTime => "c_time"
  | write => "write"
  | condition => "condition"

/-- The spellings under which a kind is read. -/
def spellings : ActionKind → List String
  | cTime => ["c_time", "ctime"]
  | kind => [kind.name]

/-- Two texts are the same word when they differ at most in the case of ASCII
letters. -/
def sameWord (left right : String) : Bool :=
  left.toList.map Char.toLower == right.toList.map Char.toLower

/-- Read a kind from any of its spellings, in any mixture of cases. -/
def ofName (text : String) : Except NameError ActionKind :=
  match all.find? fun kind => kind.spellings.any (sameWord text) with
  | some kind => .ok kind
  | none => .error .unmatched

/-- The executable kinds are all kinds but `unknown`. -/
theorem mem_executable_iff (kind : ActionKind) :
    kind ∈ executable ↔ kind ≠ unknown := by
  cases kind <;> decide

/-- Reading undoes writing. -/
@[simp]
theorem ofName_name (kind : ActionKind) : ofName kind.name = .ok kind := by
  cases kind <;> rfl

end ActionKind

end Scenario
