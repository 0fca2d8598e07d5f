import Mathlib
import Scenario.Proofs.Journal

/-!
# The actions that a document needs

A document needs the actions of the kinds that its steps name.  It needs that
of change times as well if a condition stands directly behind a step of another
kind.  No other action is ever looked at: two registries that have the same
actions for the kinds that are needed run the document alike, whatever they
have for all other kinds.
-/

namespace Scenario

/-! ## Registering -/

namespace Registry

variable {m : Type → Type}

/-- The last of the actions registered for a kind, if there is one. -/
def lastFor?
    (kind : ActionKind)
    (actions : List (ActionKind × Action m)) :
    Option (Action m) :=
  (actions.filter fun entry => entry.1 = kind).getLast?.map Prod.snd

theorem lastFor?_cons
    (kind : ActionKind)
    (entry : ActionKind × Action m)
    (actions : List (ActionKind × Action m)) :
    lastFor? kind (entry :: actions) =
      (lastFor? kind actions).or
        (if entry.1 = kind then some entry.2 else none) := by
  unfold lastFor?
  by_cases same : entry.1 = kind
  · rw [List.filter_cons_of_pos (by simpa using same), List.getLast?_cons,
      if_pos same]
    cases (actions.filter fun entry => entry.1 = kind).getLast? <;> rfl
  · rw [List.filter_cons_of_neg (by simpa using same), if_neg same,
      Option.or_none]

/-- Of the actions registered for a kind the last one counts. -/
theorem find?_registerAll
    (registry : Registry m)
    (actions : List (ActionKind × Action m))
    (kind : ActionKind) :
    (registry.registerAll actions).find? kind =
      (lastFor? kind actions).or (registry.find? kind) := by
  induction actions generalizing registry with
  | nil => rfl
  | cons entry actions induction =>
    have registered :
        registry.registerAll (entry :: actions) =
          (registry.register entry.1 entry.2).registerAll actions :=
      rfl
    rw [registered, induction, lastFor?_cons, Option.or_assoc]
    by_cases same : entry.1 = kind
    · rw [← same, find?_register_self, if_pos rfl, Option.some_or]
    · rw [find?_register_of_ne registry (Ne.symm same), if_neg same,
        Option.none_or]

/-- The two registries have the same actions for the kinds that are asked
for, or have none for them. -/
def AgreesOn
    (one other : Registry m)
    (asked : ActionKind → Prop) :
    Prop :=
  ∀ kind, asked kind → one.find? kind = other.find? kind

end Registry

/-! ## Kinds that are needed -/

/-- Steps of these kinds, one behind the other, need an action of a kind. -/
inductive Needs (kinds : List ActionKind) : ActionKind → Prop where
  /-- A step names the kind. -/
  | named {kind} (member : kind ∈ kinds) : Needs kinds kind
  /-- A condition stands directly behind a step that tells no change time. -/
  | lookup {current}
      (adjacent : [current, .condition] <:+: kinds)
      (other : current ≠ .cTime) :
    Needs kinds .cTime

namespace Needs

theorem head (kind : ActionKind) (kinds : List ActionKind) :
    Needs (kind :: kinds) kind :=
  .named (.head kinds)

theorem behind
    {kinds : List ActionKind}
    {kind : ActionKind}
    (needs : Needs kinds kind)
    (first : ActionKind) :
    Needs (first :: kinds) kind := by
  cases needs with
  | named member => exact .named (.tail first member)
  | lookup adjacent other =>
    exact .lookup (List.infix_cons adjacent) other

/-- The change time that the rule for two steps looks up is needed. -/
theorem of_implicitCTime
    {current next : ActionKind}
    (due : Forwarding.forPair current next = .implicitCTime)
    (kinds : List ActionKind) :
    Needs (current :: next :: kinds) .cTime := by
  rcases (Forwarding.forPair_eq_implicitCTime_iff current next).mp due with
    ⟨other, rfl⟩
  exact .lookup ⟨[], kinds, rfl⟩ other

end Needs

/-- The document needs an action of a kind. -/
def Document.Needs (document : Document) : ActionKind → Prop :=
  Scenario.Needs (document.steps.map Step.kind)

/-! ## Runs with registries that agree -/

section

variable
    {m : Type → Type}
    {one other : Registry m}

theorem Registry.AgreesOn.behind
    {first : ActionKind}
    {kinds : List ActionKind}
    (agree : one.AgreesOn other (Needs (first :: kinds))) :
    one.AgreesOn other (Needs kinds) :=
  fun kind needs => agree kind (needs.behind first)

variable [Monad m]

namespace Run

theorem call_congr
    {kind : ActionKind}
    (same : one.find? kind = other.find? kind)
    (announcement : LogEvent)
    (arguments : List String) :
    call one kind announcement arguments =
      call other kind announcement arguments := by
  unfold call
  rw [same]

/-- What is forwarded between two steps depends on the action of change times
only if the rule for them looks one up. -/
theorem forward_congr
    {current next : ActionKind}
    {kinds : List ActionKind}
    (agree : one.AgreesOn other (Needs (current :: next :: kinds)))
    (result : String)
    (arguments : List String) :
    let handover (registry : Registry m) :=
      (Forwarding.forPair current next).forward result arguments fun base =>
        call registry .cTime (lookupEvent base) base
    handover one = handover other := by
  dsimp only
  cases rule : Forwarding.forPair current next with
  | implicitCTime =>
    have same := agree .cTime (.of_implicitCTime rule kinds)
    simp only [call_congr same]
  | _ => rfl

/-- Steps are performed alike with registries that agree on what they need. -/
theorem perform_congr
    {current : Step}
    {rest : List Step}
    (agree : one.AgreesOn other (Needs (current.kind :: rest.map Step.kind)))
    (position : Nat) :
    perform one position current rest =
      perform other position current rest := by
  induction rest generalizing current position with
  | nil =>
    have own := call_congr (agree current.kind (.head _ _))
    rw [perform, perform, own]
  | cons next rest induction =>
    have own := call_congr (agree current.kind (.head _ _))
    have handed := forward_congr agree
    -- What is delivered to the next step does not change its kind.
    have behind (forwarded : List String) :
        perform one (position + 1) (next.deliver forwarded) rest =
          perform other (position + 1) (next.deliver forwarded) rest := by
      apply induction
      rw [Step.deliver_kind]
      exact agree.behind
    rw [perform, perform, own]
    simp only [handed, behind]

theorem steps_congr
    {list : List Step}
    (agree : one.AgreesOn other (Needs (list.map Step.kind))) :
    steps one list = steps other list := by
  cases list with
  | nil => rfl
  | cons first rest => exact perform_congr agree 0

end Run

theorem Engine.run_congr
    {engine : Engine}
    (agree : one.AgreesOn other engine.document.Needs)
    (sink : Sink m) :
    run one sink engine = run other sink engine := by
  unfold run
  rw [Run.steps_congr agree]

end

/-- Registries that agree do so with a journal as well. -/
theorem Registry.AgreesOn.journaled
    {World : Type}
    {one other : Registry (StateM World)}
    {asked : ActionKind → Prop}
    (agree : one.AgreesOn other asked) :
    one.journaled.AgreesOn other.journaled asked := by
  intro kind needed
  dsimp only [Registry.journaled]
  rw [agree kind needed]

namespace Engine

/-- Only the actions matter that a document needs, and of those only the ones
that were registered last.  Otherwise two registries may have been built in any
way: the runs of the document return and leave the same, with the same calls
and the same documents given to the sink on the way. -/
theorem run_fresh_disregards_unneeded
    {World : Type}
    (actions otherActions : List (ActionKind × Action (StateM World)))
    (sink : Sink (StateM World))
    (document : Document)
    (world : World)
    (agree :
      ∀ kind,
        document.Needs kind →
          Registry.lastFor? kind actions =
            Registry.lastFor? kind otherActions) :
    let registry := Registry.empty.registerAll actions
    let other := Registry.empty.registerAll otherActions
    let journal (registry : Registry (StateM World)) :=
      ((run registry.journaled sink.journaled { document }).run { world }).2
    (run registry sink { document }).run world =
        (run other sink { document }).run world ∧
      journal registry = journal other := by
  intro registry other journal
  have agrees : registry.AgreesOn other document.Needs := by
    intro kind needed
    dsimp only [registry, other]
    rw [Registry.find?_registerAll, Registry.find?_registerAll,
      agree kind needed]
  have plain : run registry sink { document } = run other sink { document } :=
    run_congr agrees sink
  have noted :
      run registry.journaled sink.journaled { document } =
        run other.journaled sink.journaled { document } :=
    run_congr agrees.journaled sink.journaled
  dsimp only [journal]
  rw [plain, noted]
  exact ⟨rfl, rfl⟩

/-- Steps of which none is a condition do not need the action of change times.
One registry lacks it, and the other one has it, as well as an action for
steps that create a file which was replaced later on. -/
theorem run_fresh_disregards_unneeded_change_time :
    let last : Action (StateM Nat) := fun arguments => do
      modify (· + 1)
      return { value := .ok (arguments.getLastD "") }
    let refusing : Action (StateM Nat) := fun _ =>
      return { value := .error .falseCondition }
    let actions := [(.create, last), (.write, last)]
    let otherActions :=
      [(.create, refusing), (.cTime, refusing), (.write, last),
        (.create, last), (.condition, refusing)]
    let registry := Registry.empty.registerAll actions
    let other := Registry.empty.registerAll otherActions
    let sink : Sink (StateM Nat) := Sink.accepting
    let document : Document :=
      { steps := [{ kind := .create, arguments := ["a"] }, { kind := .write }] }
    (∀ kind,
        document.Needs kind →
          Registry.lastFor? kind actions =
            Registry.lastFor? kind otherActions) ∧
      (run registry sink { document }).run 0 =
        (run other sink { document }).run 0 ∧
      ((run other sink { document }).run 0).1.result = .ok .completed := by
  intro last refusing actions otherActions registry other sink document
  have agree :
      ∀ kind,
        document.Needs kind →
          Registry.lastFor? kind actions =
            Registry.lastFor? kind otherActions := by
    intro kind needs
    cases needs with
    | named member =>
      simp only [document, List.map_cons, List.map_nil, List.mem_cons,
        List.not_mem_nil, or_false] at member
      rcases member with rfl | rfl <;> rfl
    | lookup adjacent _ =>
      have condition := adjacent.subset (.tail _ (.head _))
      simp [document] at condition
  exact ⟨agree,
    (run_fresh_disregards_unneeded actions otherActions sink document 0
      agree).1,
    by cbv⟩

end Engine

end Scenario
