import Scenario.Json.Reader
import Scenario.Text.Hexadecimal

/-!
# Reading strings

A string may hold every character but the quote, the backslash and the control
characters below the space, all of which have escapes.  A `\u` escape holds one
UTF-16 unit in four hexadecimal digits; a character beyond the first 65536
takes two of them, a leading and a trailing surrogate.
-/

namespace Scenario.Json

/-- The unit written by four hexadecimal digits. -/
def hexUnit? (first second third fourth : Char) : Option Nat := do
  let first ← Text.hexDigit? first
  let second ← Text.hexDigit? second
  let third ← Text.hexDigit? third
  let fourth ← Text.hexDigit? fourth
  return ((first * 16 + second) * 16 + third) * 16 + fourth

/-- The unit is the first half of a pair. -/
def isLeadingSurrogate (unit : Nat) : Bool :=
  0xD800 ≤ unit && unit < 0xDC00

/-- The unit is the second half of a pair. -/
def isTrailingSurrogate (unit : Nat) : Bool :=
  0xDC00 ≤ unit && unit < 0xE000

/-- The character written by a pair of surrogates. -/
def joinSurrogates (leading trailing : Nat) : Char :=
  Char.ofNat (0x10000 + (leading - 0xD800) * 0x400 + (trailing - 0xDC00))

/-- The character that an escape of one letter stands for. -/
def unescape? : Char → Option Char
  | '"' => some '"'
  | '\\' => some '\\'
  | '/' => some '/'
  | 'b' => some '\x08'
  | 'f' => some '\x0c'
  | 'n' => some '\n'
  | 'r' => some '\r'
  | 't' => some '\t'
  | _ => none

/-- A `\u` escape whose digits are wrong.  Its four bytes are looked at
together, so the fault is noticed behind all four. -/
def stopInHex {α : Type} (digits : List Char) : Read α :=
  if 4 ≤ byteLength digits then
    .error { fault := .invalidEscape, unread := digits, seen := 4 }
  else
    stop .endInString []

/-- A leading surrogate that no `\u` escape with four digits follows. -/
def stopInPair {α : Type} : List Char → Read α
  | [] => stop .endInString []
  | ['\\'] => stop .endInString []
  | '\\' :: 'u' :: digits => stopInHex digits
  | '\\' :: rest => stop .unexpectedEndOfEscape rest
  | rest => stop .unexpectedEndOfEscape rest

/-- Read a string behind its opening quote.  The characters read so far stand
in `done`, last one first. -/
def readString (done : List Char) : List Char → Read String
  | [] => stop .endInString []
  | '"' :: rest => .ok (String.ofList done.reverse, rest)
  | ['\\'] => stop .endInString []
  | '\\' :: 'u' :: first :: second :: third :: fourth :: rest =>
    match hexUnit? first second third fourth with
    | none => stopInHex (first :: second :: third :: fourth :: rest)
    | some unit =>
      if isTrailingSurrogate unit then
        stop .loneSurrogate (fourth :: rest)
      else if isLeadingSurrogate unit then
        match rest with
        | '\\' :: 'u' :: fifth :: sixth :: seventh :: eighth :: rest =>
          match hexUnit? fifth sixth seventh eighth with
          | none => stopInHex (fifth :: sixth :: seventh :: eighth :: rest)
          | some trailing =>
            if isTrailingSurrogate trailing then
              readString (joinSurrogates unit trailing :: done) rest
            else
              stop .loneSurrogate (eighth :: rest)
        | rest => stopInPair rest
      else
        readString (Char.ofNat unit :: done) rest
  | '\\' :: 'u' :: digits => stopInHex digits
  | '\\' :: letter :: rest =>
    match unescape? letter with
    | some character => readString (character :: done) rest
    | none => stop .invalidEscape (letter :: rest)
  | character :: rest =>
    if character < ' ' then
      stop .controlCharacter (character :: rest)
    else
      readString (character :: done) rest

end Scenario.Json
