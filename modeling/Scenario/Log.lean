/-!
# Log events

Parts of the program report what they do as events.  An event has a level, the
part that it comes from, and a message.  Operations give their events back
together with their result; only the outermost layer decides which of them are
written.
-/

namespace Scenario

/-- How much an event matters, the most important level first. -/
inductive Level where
  | error
  | warn
  | info
  | debug
  | trace
deriving DecidableEq, Repr

namespace Level

/-- The name of a level. -/
def name : Level → String
  | error => "ERROR"
  | warn => "WARN"
  | info => "INFO"
  | debug => "DEBUG"
  | trace => "TRACE"

/-- The place of a level: the smaller, the more important. -/
def rank : Level → Nat
  | error => 1
  | warn => 2
  | info => 3
  | debug => 4
  | trace => 5

end Level

/-- The parts of the program that log. -/
inductive LogSource where
  | program
  | runner
  | document
  | engine
  | files
  | persist
deriving DecidableEq, Repr

/-- The path under which the events of a part are filtered. -/
def LogSource.path : LogSource → String
  | program => "scenario_runner"
  | runner => "scenario_runner::runner"
  | document => "scenario_runner::document"
  | engine => "scenario_runner::engine"
  | files => "scenario_runner::actions::fs"
  | persist => "scenario_runner::persist"

/-- Something that a part of the program reports. -/
structure LogEvent where
  level : Level
  source : LogSource
  message : String
deriving DecidableEq, Repr

/-- How a character is written to a log.  Those that make a terminal act are
written as their numbers. -/
def logChar (character : Char) : List Char :=
  let number := character.toNat
  let digits := Nat.toDigits 16 number
  if number ∈ [0x07, 0x08, 0x0c, 0x1b, 0x7f] then
    ['\\', 'x'] ++ List.replicate (2 - digits.length) '0' ++ digits
  else if 0x80 ≤ number ∧ number ≤ 0x9f then
    ['\\', 'u', '\x7b'] ++ digits ++ ['\x7d']
  else
    [character]

/-- An event as it is written to a log. -/
def LogEvent.text (event : LogEvent) : String :=
  event.level.name ++ " " ++
    String.ofList (event.message.toList.flatMap logChar)

/-- A value and the events that were reported on the way to it, in order. -/
structure Logged (α : Type) where
  value : α
  log : List LogEvent := []
deriving DecidableEq, Repr

end Scenario
