import Scenario.Document
import Scenario.IoError
import Scenario.Log
import Scenario.Moment.Format

/-!
# Actions

An action takes the arguments of a step and gives a result, or an error that
says why it has none.  Actions have effects, so they live in a monad; nothing
else is asked of them.  The result is a text, which a run may hand on to the
next step, and may be empty.
-/

namespace Scenario

/-- How many arguments an action takes. -/
inductive Arity where
  | exactly (count : Nat)
  | atLeast (count : Nat)
deriving DecidableEq, Repr

namespace Arity

/-- The text of an arity. -/
def text : Arity → String
  | exactly count => toString count
  | atLeast count => s!"at least {count}"

/-- The given number of arguments fits the arity. -/
def Fits : Arity → Nat → Prop
  | exactly count, given => given = count
  | atLeast count, given => count ≤ given

instance (arity : Arity) (given : Nat) : Decidable (arity.Fits given) :=
  match arity with
  | exactly _ => inferInstanceAs (Decidable (_ = _))
  | atLeast _ => inferInstanceAs (Decidable (_ ≤ _))

end Arity

/-- Why an action has no result. -/
inductive ActionError where
  /-- A condition does not hold.  This ends a run, but is no defect. -/
  | falseCondition
  | arity (kind : ActionKind) (expected : Arity) (given : Nat)
  /-- A file is missing, or a directory stands in its place. -/
  | notFound (kind : ActionKind) (path : String)
  | invalidTimestamp (value : String) (error : MomentError)
  | io (kind : ActionKind) (path : String) (error : IoError)
deriving DecidableEq, Repr

namespace ActionError

/-- The kind of the error, as it is recorded with the document. -/
def kind : ActionError → ErrorKind
  | falseCondition => .falseCondition
  | arity .. => .arity
  | notFound .. => .notFound
  | invalidTimestamp .. => .invalidTimestamp
  | io .. => .io

/-- The text of the error. -/
def message : ActionError → String
  | falseCondition => "false condition"
  | arity kind expected given =>
    s!"{kind.name}: invalid argument count, " ++
      s!"expected {expected.text} got {given}"
  | notFound kind path => s!"{kind.name} {path}: file does not exist"
  | invalidTimestamp value error =>
    s!"invalid timestamp '{value}': {error.message}"
  | io kind path error => s!"{kind.name} {path}: {error.message}"

/-- The texts of the errors behind the error, the nearest first. -/
def causes : ActionError → List String
  | invalidTimestamp _ error => [error.message]
  | io _ _ error => [error.message]
  | _ => []

/-- The error of an action whose operation on a file failed. -/
def ofIo (kind : ActionKind) (path : String) (error : IoError) : ActionError :=
  if error.isNotFound then .notFound kind path else .io kind path error

end ActionError

/-- Check the number of arguments of an action. -/
def Arity.check
    (arity : Arity)
    (kind : ActionKind)
    (arguments : List String) :
    Except ActionError Unit :=
  if arity.Fits arguments.length then
    .ok ()
  else
    .error (.arity kind arity arguments.length)

/-- A number of arguments passes the check exactly if it fits. -/
theorem Arity.check_eq_ok_iff
    (arity : Arity)
    (kind : ActionKind)
    (arguments : List String) :
    arity.check kind arguments = .ok () ↔ arity.Fits arguments.length := by
  unfold Arity.check
  split <;> simp_all

/-- Check the number of arguments of an action, and go on with those that
fit. -/
def Arity.checking
    {α : Type}
    (arity : Arity)
    (kind : ActionKind)
    (refuse : ActionError → α)
    (perform :
      (arguments : List String) → arity.Fits arguments.length → α)
    (arguments : List String) :
    α :=
  match checked : arity.check kind arguments with
  | .error error => refuse error
  | .ok () =>
    perform arguments ((arity.check_eq_ok_iff kind arguments).mp checked)

section

variable
    {α : Type}
    {arity : Arity}
    (kind : ActionKind)
    (refuse : ActionError → α)
    (perform :
      (arguments : List String) → arity.Fits arguments.length → α)
    {arguments : List String}

theorem Arity.checking_of_fits (fits : arity.Fits arguments.length) :
    arity.checking kind refuse perform arguments = perform arguments fits := by
  have passes := (arity.check_eq_ok_iff kind arguments).mpr fits
  unfold checking
  split
  next error failed =>
    rw [passes] at failed
    cases failed
  next => rfl

theorem Arity.checking_of_not_fits (misfit : ¬ arity.Fits arguments.length) :
    arity.checking kind refuse perform arguments =
      refuse (.arity kind arity arguments.length) := by
  unfold checking
  split
  next error failed =>
    rw [check, if_neg misfit] at failed
    rw [Except.error.inj failed]
  next passed =>
    exact absurd ((arity.check_eq_ok_iff kind arguments).mp passed) misfit

end

/-- What a call of an action gives: a result or an error. -/
abbrev ActionResult := Except ActionError String

/-- What performs a step. -/
abbrev Action (m : Type → Type) :=
  List String → m (Logged ActionResult)

end Scenario
