import Scenario.Log
import Scenario.Text.Blank
import Scenario.Text.Cut
import Scenario.Text.Letter
import Scenario.Text.Pattern

/-!
# Directives

A directive lets events through up to a level.  In full it is written

    target[span{field=value}]=level

and everything but one part may be left out.  A directive speaks of the events
whose path begins with its target, and of those that have its field.  One that
names a span, or asks for a value, is about events inside of spans; no event is
inside of one.

A directive without a level lets everything through.  One that is a single word
is a level if there is one of that name or number, and a target otherwise.
-/

namespace Scenario

/-- What a directive asks of a field: its name, and that its value meets a
pattern. -/
structure FieldCondition where
  name : String
  value? : Option String := none
deriving DecidableEq, Repr

/-- What a directive of a filter says. -/
structure Directive where
  /-- How the paths begin that the directive speaks of. -/
  target : String := ""
  span? : Option String := none
  field? : Option FieldCondition := none
  /-- The greatest rank of a level that is let through; zero lets none. -/
  greatestRank : Nat := Level.trace.rank
deriving DecidableEq, Repr

namespace Directive

/-- The field that every event has. -/
def messageField : String := "message"

/-- The directive speaks of events from the path. -/
def speaksOf (directive : Directive) (path : String) : Bool :=
  directive.target.toList.isPrefixOf path.toList &&
    directive.span?.isNone &&
    directive.field?.all fun field =>
      field.name == messageField && field.value?.isNone

/-- How narrow the directive is: first by its target, then by its field. -/
def narrowness (directive : Directive) : Nat :=
  2 * directive.target.length + directive.field?.toList.length

/-! ## Levels -/

/-- The ranks under their names. -/
def rankNames : List (String × Nat) :=
  ("off", 0) :: [Level.error, .warn, .info, .debug, .trace].map fun level =>
    (level.name, level.rank)

/-- Read a level, by its name in any mixture of cases or by its number. -/
def rankOf? (text : List Char) : Option Nat :=
  let lowered := text.map Char.toLower
  match rankNames.find? fun entry =>
      entry.1.toList.map Char.toLower == lowered with
  | some entry => some entry.2
  | none =>
    let digits := if text.head? = some '+' then text.drop 1 else text
    if digits ≠ [] ∧ digits.all Char.isDigit then
      let number := digits.foldl
        (fun value digit => value * 10 + (digit.toNat - '0'.toNat)) 0
      if number ≤ Level.trace.rank then some number else none
    else
      none

/-- Read the level behind an equals sign; if it is left out, all levels are
let through. -/
def rankAfterSign? (text : List Char) : Option Nat :=
  if text.isEmpty then some Level.trace.rank else rankOf? text

/-! ## Fields -/

/-- The text is a number, with a fraction and an exponent if it likes, or a
name of what is no finite number. -/
def isNumeral (text : List Char) : Bool :=
  let unsigned :=
    match text with
    | '+' :: rest => rest
    | '-' :: rest => rest
    | _ => text
  let whole := unsigned.takeWhile Char.isDigit
  let behindWhole := unsigned.drop whole.length
  let fraction :=
    match behindWhole with
    | '.' :: rest => rest.takeWhile Char.isDigit
    | _ => []
  let behindFraction :=
    match behindWhole with
    | '.' :: rest => rest.drop fraction.length
    | _ => behindWhole
  let isExponent :=
    match behindFraction with
    | [] => true
    | mark :: '+' :: digits | mark :: '-' :: digits | mark :: digits =>
      mark.toLower == 'e' && !digits.isEmpty && digits.all Char.isDigit
  let name := String.ofList (unsigned.map Char.toLower)
  (!(whole.isEmpty && fraction.isEmpty) && isExponent) ||
    ["inf", "infinity", "nan"].contains name

/-- The text can be what a value is compared with. -/
def isValue (text : List Char) : Bool :=
  isNumeral text || Text.isPattern text

/-- Read the condition on a field.  What follows a second equals sign does not
count. -/
def fieldOf? (text : List Char) : Option FieldCondition :=
  match Text.cutAt '=' text with
  | name :: value :: _ =>
    if isValue value then
      some {
        name := String.ofList name
        value? := some (String.ofList value) }
    else
      none
  | _ => if text.isEmpty then none else some { name := String.ofList text }

/-! ## Reading -/

/-- Where in a directive a text has arrived.  The positions are those at which
the part begins that is being read. -/
inductive Place where
  | beginning
  /-- In the first word, which is a target or a level. -/
  | word
  | span (start : Nat)
  | field (start : Nat)
  | behindField
  | behindSpan
  | level (start : Nat)
deriving DecidableEq, Repr

/-- A directive may begin with the character, apart from a bracket. -/
def mayBegin (character : Char) : Bool :=
  Text.isAlphanumeric character || ['-', ':', '_'].contains character

/-- Read on from a place to the character at a position.  The parts are cut out
of the text as it is written. -/
def advance
    (text : List Char) :
    Directive × Place → Nat × Char → Option (Directive × Place)
  | (directive, place), (position, character) =>
    let cut (start : Nat) := String.ofList (Text.between start position text)
    let next := position + character.utf8Size
    match place, character with
    | .beginning, '[' => some (directive, .span next)
    | .beginning, _ =>
      if mayBegin character then some (directive, .word) else none
    | .word, '=' => some ({ directive with target := cut 0 }, .level next)
    | .word, '[' => some ({ directive with target := cut 0 }, .span next)
    | .word, _ => some (directive, .word)
    | .span start, ']' =>
      some ({ directive with span? := some (cut start) }, .behindSpan)
    | .span start, '\x7b' =>
      let span? := if (cut start).isEmpty then none else some (cut start)
      some ({ directive with span? }, .field next)
    | .span start, _ => some (directive, .span start)
    | .field start, '\x7d' => do
      let field ← fieldOf? (Text.between start position text)
      some ({ directive with field? := some field }, .behindField)
    | .field start, _ => some (directive, .field start)
    | .behindField, ']' => some (directive, .behindSpan)
    | .behindField, _ => none
    | .behindSpan, '=' => some (directive, .level next)
    | .behindSpan, _ => none
    | .level start, _ => some (directive, .level start)

/-- Finish a directive at the end of its text. -/
def finish
    (text : List Char) :
    Directive × Place → Option Directive
  | (directive, .word) =>
    match rankOf? text with
    | some greatestRank => some { directive with greatestRank }
    | none => some { directive with target := String.ofList text }
  | (directive, .level start) =>
    (rankAfterSign? (Text.dropBytes start text)).map fun greatestRank =>
      { directive with greatestRank }
  | (directive, .behindSpan) => some directive
  | _ => none

/-- Read a directive.  White space at its ends does not count when its parts
are found, but positions do: in front of a directive it moves all parts to the
left, and at the end it belongs to the last part. -/
def ofText? (text : List Char) : Option Directive := do
  let positions := Text.withPositions 0 (Text.trim text)
  finish text (← positions.foldlM (advance text) ({}, .beginning))

end Directive

end Scenario
