import Scenario.Json.Fault

/-!
# Readers

A reader takes a text and gives a value together with the text behind it, or
stops at a fault.  It keeps no count of where it is: a fault names the text
that was still unread, and the place of the fault follows from its length.
-/

namespace Scenario.Json

/-- Where and why a reader stopped. -/
structure Stop where
  fault : Fault
  /-- The text that was still unread. -/
  unread : List Char
  /-- The bytes of the unread text that the report counts as seen. -/
  seen : Nat := 1
deriving DecidableEq, Repr

/-- What a reader gives. -/
abbrev Read (α : Type) := Except Stop (α × List Char)

/-- Stop because of the first character of the unread text, or because there
is none. -/
def stop {α : Type} (fault : Fault) (unread : List Char) : Read α :=
  .error { fault, unread }

/-- Read on behind what a reader gave. -/
def andThen
    {α β : Type}
    (first : Read α)
    (next : α → List Char → Read β) :
    Read β :=
  match first with
  | .error stopped => .error stopped
  | .ok (value, rest) => next value rest

@[simp]
theorem andThen_ok
    {α β : Type}
    (value : α)
    (rest : List Char)
    (next : α → List Char → Read β) :
    andThen (.ok (value, rest)) next = next value rest := rfl

/-- The number of bytes of a text. -/
def byteLength (text : List Char) : Nat :=
  text.foldr (fun character size => character.utf8Size + size) 0

/-- The error to report for a reader of `text` that stopped. -/
def Stop.locate (stopped : Stop) (text : List Char) : SyntaxError :=
  let total := byteLength text
  let offset := min total (total - byteLength stopped.unread + stopped.seen)
  ⟨stopped.fault, Position.start.after text offset⟩

/-- The four characters that may stand between the tokens of a text. -/
def isBlank (character : Char) : Bool :=
  character == ' ' || character == '\n' || character == '\t' ||
    character == '\r'

/-- Drop the blanks in front of a text. -/
def skipBlanks (text : List Char) : List Char :=
  text.dropWhile isBlank

/-- Read the given characters. -/
def readLiteral {α : Type} (value : α) : List Char → List Char → Read α
  | [], text => .ok (value, text)
  | _ :: _, [] => stop .endInValue []
  | expected :: literal, character :: rest =>
    if character = expected then
      readLiteral value literal rest
    else
      stop .expectedLiteral (character :: rest)

end Scenario.Json
