/-!
# Faults of JSON text

A reader that meets a fault stops there.  The fault is reported with the line
and the column at which it was noticed, both counted in bytes: the column is
the number of bytes of the line up to and including the offending one.
-/

namespace Scenario.Json

/-- What can be wrong with a JSON text. -/
inductive Fault where
  | endInList
  | endInObject
  | endInString
  | endInValue
  | expectedColon
  | expectedListEnd
  | expectedObjectEnd
  | expectedLiteral
  | expectedValue
  | invalidEscape
  | invalidNumber
  | numberOutOfRange
  | loneSurrogate
  | unexpectedEndOfEscape
  | controlCharacter
  | keyNotString
  | trailingComma
  | trailingCharacters
  | nestingTooDeep
deriving DecidableEq, Repr

/-- The text of a fault. -/
def Fault.message : Fault → String
  | endInList => "EOF while parsing a list"
  | endInObject => "EOF while parsing an object"
  | endInString => "EOF while parsing a string"
  | endInValue => "EOF while parsing a value"
  | expectedColon => "expected `:`"
  | expectedListEnd => "expected `,` or `]`"
  | expectedObjectEnd => "expected `,` or `\x7d`"
  | expectedLiteral => "expected ident"
  | expectedValue => "expected value"
  | invalidEscape => "invalid escape"
  | invalidNumber => "invalid number"
  | numberOutOfRange => "number out of range"
  | loneSurrogate => "lone leading surrogate in hex escape"
  | unexpectedEndOfEscape => "unexpected end of hex escape"
  | controlCharacter =>
    "control character (\\u0000-\\u001F) found while parsing a string"
  | keyNotString => "key must be a string"
  | trailingComma => "trailing comma"
  | trailingCharacters => "trailing characters"
  | nestingTooDeep => "recursion limit exceeded"

/-- A place in a text: a line, counted from one, and the bytes before the
place on that line. -/
structure Position where
  line : Nat
  column : Nat
deriving DecidableEq, Repr

namespace Position

/-- Where a text begins. -/
def start : Position := ⟨1, 0⟩

/-- The position behind a character. -/
def advance (position : Position) (character : Char) : Position :=
  if character = '\n' then
    ⟨position.line + 1, 0⟩
  else
    ⟨position.line, position.column + character.utf8Size⟩

/-- The position that is `offset` bytes further on in a text. -/
def after (position : Position) : List Char → Nat → Position
  | [], _ => position
  | character :: rest, offset =>
    if character.utf8Size ≤ offset then
      (position.advance character).after rest (offset - character.utf8Size)
    else
      ⟨position.line, position.column + offset⟩

end Position

/-- A fault and the place where it was noticed. -/
structure SyntaxError where
  fault : Fault
  position : Position
deriving DecidableEq, Repr

/-- The text of the error. -/
def SyntaxError.message (error : SyntaxError) : String :=
  s!"{error.fault.message} at line {error.position.line} column {error.position.column}"

end Scenario.Json
