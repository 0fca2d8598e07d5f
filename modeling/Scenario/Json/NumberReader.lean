import Scenario.Json.Reader
import Scenario.Json.Value

/-!
# Reading numbers

A number without a fraction and an exponent is an integer if it fits 64 bits:
unsigned if it has no minus sign, signed if it has one.  Every other number is
a float, and so is `-0`.

A float is computed from a significand of at most 64 bits and a power of ten,
by one rounding of the significand and one product or quotient.  Digits that
do not fit into the significand only count towards the power of ten, or, after
the point, not at all.  The result can therefore differ in the last place from
the float nearest to the decimal.
-/

namespace Scenario.Json

/-- A run of digits folded into a significand of at most 64 bits. -/
structure Digits where
  significand : Nat := 0
  /-- The digits that the significand holds. -/
  kept : Nat := 0
  /-- The digits that found no room in it. -/
  skipped : Nat := 0
deriving DecidableEq, Repr

/-- Fold in one more digit.  Behind a digit without room there is none for any
other. -/
def Digits.push (digits : Digits) (digit : Nat) : Digits :=
  let extended := digits.significand * 10 + digit
  if digits.skipped = 0 ∧ extended < 0x10000000000000000 then
    { digits with significand := extended, kept := digits.kept + 1 }
  else
    { digits with skipped := digits.skipped + 1 }

/-- The value of a decimal digit. -/
def digitValue (character : Char) : Nat :=
  character.toNat - '0'.toNat

/-- Fold in all digits in front of a text. -/
def Digits.read (digits : Digits) : List Char → Digits × List Char
  | [] => (digits, [])
  | character :: rest =>
    if character.isDigit then
      (digits.push (digitValue character)).read rest
    else
      (digits, character :: rest)

/-- A power of ten as a float. -/
def tenToThe (power : Nat) : Float :=
  Float.ofScientific 1 false power

/-- Divide a float by a power of ten, at most `10 ^ 308` at a time. -/
def scaleDown (value : Float) (power : Nat) : Float :=
  if power ≤ 308 then
    value / tenToThe power
  else if value == 0.0 then
    value
  else
    scaleDown (value / tenToThe 308) (power - 308)
termination_by power
decreasing_by omega

/-- The float with the given significand and power of ten; none if it is too
large. -/
def scaledFloat? (significand : Nat) (power : Int) : Option Float :=
  let value := Float.ofScientific significand false 0
  if power < 0 then
    some (scaleDown value power.natAbs)
  else if power ≤ 308 then
    let scaled := value * tenToThe power.toNat
    if scaled.isInf then none else some scaled
  else if value == 0.0 then
    some value
  else
    none

/-- Give a float its sign. -/
def signed (negative : Bool) (value : Float) : Number :=
  .float (if negative then -value else value)

/-- Finish a float in front of the rest of a text. -/
def finishFloat
    (negative : Bool)
    (significand : Nat)
    (power : Int)
    (rest : List Char) :
    Read Number :=
  match scaledFloat? significand power with
  | some value => .ok (signed negative value, rest)
  | none => .error { fault := .numberOutOfRange, unread := rest, seen := 0 }

/-- Finish an integer in front of the rest of a text. -/
def finishInteger
    (negative : Bool)
    (whole : Digits)
    (rest : List Char) :
    Read Number :=
  if whole.skipped ≠ 0 then
    finishFloat negative whole.significand whole.skipped rest
  else if !negative then
    .ok (.integer whole.significand, rest)
  else if whole.significand = 0 ∨ 0x8000000000000000 < whole.significand then
    finishFloat true whole.significand 0 rest
  else
    .ok (.integer (-whole.significand), rest)

/-- Read the digits of an exponent, of which `value` is already known.  An
exponent beyond 31 bits makes a zero, or is out of range. -/
def readExponentDigits
    (negative : Bool)
    (significand : Nat)
    (power : Int)
    (negativeExponent : Bool)
    (value : Nat) :
    List Char → Read Number
  | [] => finish []
  | character :: rest =>
    if character.isDigit then
      let extended := value * 10 + digitValue character
      if extended < 0x80000000 then
        readExponentDigits negative significand power negativeExponent
          extended rest
      else if significand ≠ 0 ∧ !negativeExponent then
        stop .numberOutOfRange (character :: rest)
      else
        .ok (signed negative 0.0, rest.dropWhile Char.isDigit)
    else
      finish (character :: rest)
where
  /-- The exponent is complete. -/
  finish (rest : List Char) : Read Number :=
    finishFloat negative significand
      (if negativeExponent then power - value else power + value) rest

/-- Read the exponent behind its mark. -/
def readExponent
    (negative : Bool)
    (significand : Nat)
    (power : Int)
    (text : List Char) :
    Read Number :=
  let (negativeExponent, digits) :=
    match text with
    | '+' :: rest => (false, rest)
    | '-' :: rest => (true, rest)
    | rest => (false, rest)
  match digits with
  | [] => stop .endInValue []
  | character :: rest =>
    if character.isDigit then
      readExponentDigits negative significand power negativeExponent
        (digitValue character) rest
    else
      stop .invalidNumber digits

/-- Read the fraction behind the point, and the exponent if there is one. -/
def readFraction
    (negative : Bool)
    (whole : Digits)
    (text : List Char) :
    Read Number :=
  let (fraction, rest) :=
    Digits.read { significand := whole.significand } text
  let power := (whole.skipped : Int) - fraction.kept
  if fraction.kept = 0 ∧ fraction.skipped = 0 then
    match rest with
    | [] => stop .endInValue []
    | _ => stop .invalidNumber rest
  else
    match rest with
    | 'e' :: exponent =>
      readExponent negative fraction.significand power exponent
    | 'E' :: exponent =>
      readExponent negative fraction.significand power exponent
    | _ => finishFloat negative fraction.significand power rest

/-- Read what may follow the whole part of a number. -/
def readAfterWhole
    (negative : Bool)
    (whole : Digits)
    (text : List Char) :
    Read Number :=
  match text with
  | '.' :: rest => readFraction negative whole rest
  | 'e' :: rest =>
    readExponent negative whole.significand whole.skipped rest
  | 'E' :: rest =>
    readExponent negative whole.significand whole.skipped rest
  | _ => finishInteger negative whole text

/-- Read a number behind its sign.  A whole part of more than one digit does
not begin with zero. -/
def readNumber (negative : Bool) (text : List Char) : Read Number :=
  match text with
  | [] => stop .endInValue []
  | '0' :: digit :: rest =>
    if digit.isDigit then
      stop .invalidNumber (digit :: rest)
    else
      readAfterWhole negative {} (digit :: rest)
  | character :: _ =>
    if character.isDigit then
      let (whole, rest) := Digits.read {} text
      readAfterWhole negative whole rest
    else
      stop .invalidNumber text

end Scenario.Json
