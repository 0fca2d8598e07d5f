import Scenario.Moment
import Scenario.Text.Blank

/-!
# Moments as text

The text of a moment has the form `2023-06-15 13:45:00`.  Years from 0 to 9999
are written with four digits, all others with a sign and at least four digits;
the other fields always have two digits.

Reading is more liberal.  White space may stand before every number, and the
space between date and time may be any white space or none.  A year with a sign
may have any number of digits and one without at most four; every other field
has one or two digits.  A field that is out of range is refused as soon as it
is read; whether the month has the day is only asked at the end.
-/

namespace Scenario

/-- Why a text is not a moment. -/
inductive MomentError where
  | invalid
  | outOfRange
  | tooShort
  | tooLong
deriving DecidableEq, Repr

/-- The text of the error. -/
def MomentError.message : MomentError → String
  | invalid => "input contains invalid characters"
  | outOfRange => "input is out of range"
  | tooShort => "premature end of input"
  | tooLong => "trailing input"

namespace Moment

/-! ## Writing -/

/-- A number in decimal, with zeros in front up to the given width. -/
def padded (width number : Nat) : List Char :=
  let digits := Nat.toDigits 10 number
  List.replicate (width - digits.length) '0' ++ digits

/-- A year. -/
def yearText (year : Int) : List Char :=
  if year < 0 then
    '-' :: padded 4 year.natAbs
  else if 9999 < year then
    '+' :: padded 4 year.natAbs
  else
    padded 4 year.natAbs

/-- The characters of a date and a time of day. -/
def fieldChars (year : Int) (month day hour minute second : Nat) : List Char :=
  yearText year ++ '-' :: padded 2 month ++ '-' :: padded 2 day ++
    ' ' :: padded 2 hour ++ ':' :: padded 2 minute ++ ':' :: padded 2 second

/-- The characters of the text of a moment. -/
def chars (moment : Moment) : List Char :=
  fieldChars moment.year moment.month moment.day moment.hour moment.minute
    moment.second

/-- The text of a moment. -/
def text (moment : Moment) : String :=
  String.ofList moment.chars

/-- The text of what is the given number of seconds after the beginning of
1970.  What lies beyond the calendar is written in the same form. -/
def textOfSeconds (seconds : Int) : String :=
  let (year, month, day, hour, minute, second) := fieldsOfSeconds seconds
  String.ofList (fieldChars year month day hour minute second)

/-- The text of a second that the calendar has is that of the moment. -/
theorem textOfSeconds_eq_text
    {seconds : Int}
    {moment : Moment}
    (found : ofSeconds? seconds = some moment) :
    textOfSeconds seconds = moment.text := by
  unfold ofSeconds? at found
  unfold textOfSeconds
  generalize fieldsOfSeconds seconds = fields at found ⊢
  rcases fields with ⟨year, month, day, hour, minute, second⟩
  rcases fields_of_ofFields? found with ⟨rfl, rfl, rfl, rfl, rfl, rfl⟩
  rfl

theorem textOfSeconds_ne_empty (seconds : Int) : textOfSeconds seconds ≠ "" := by
  intro empty
  have characters := congrArg String.toList empty
  simp [textOfSeconds, fieldChars] at characters

/-! ## Reading -/

/-- The value of decimal digits. -/
def numeral (digits : List Char) : Nat :=
  digits.foldl (fun value digit => value * 10 + (digit.toNat - '0'.toNat)) 0

/-- Read a number of at most `limit` digits, and give the text behind it. -/
def readNumber
    (limit : Nat)
    (text : List Char) :
    Except MomentError (Nat × List Char) :=
  match text with
  | [] => .error .tooShort
  | _ =>
    match (text.take limit).takeWhile Char.isDigit with
    | [] => .error .invalid
    | digits => .ok (numeral digits, text.drop digits.length)

/-- Read the digits of a year behind its sign, if it has one. -/
def readSigned (text : List Char) : Except MomentError (Int × List Char) := do
  match text with
  | '-' :: digits =>
    let (number, rest) ← readNumber digits.length digits
    return (-(number : Int), rest)
  | '+' :: digits =>
    let (number, rest) ← readNumber digits.length digits
    return ((number : Int), rest)
  | _ =>
    let (number, rest) ← readNumber 4 text
    return ((number : Int), rest)

/-- Read a year.  It has to fit 32 bits. -/
def readYear (text : List Char) : Except MomentError (Int × List Char) := do
  let (year, rest) ← readSigned (Text.trimStart text)
  if -0x80000000 ≤ year ∧ year < 0x80000000 then
    return (year, rest)
  else
    throw .outOfRange

/-- Read a field of at most two digits that lies between two bounds. -/
def readField
    (least greatest : Nat)
    (text : List Char) :
    Except MomentError (Nat × List Char) := do
  let (number, rest) ← readNumber 2 (Text.trimStart text)
  if least ≤ number ∧ number ≤ greatest then
    return (number, rest)
  else
    throw .outOfRange

/-- Read one given character. -/
def readMark (mark : Char) (text : List Char) :
    Except MomentError (List Char) :=
  match text with
  | [] => .error .tooShort
  | character :: rest =>
    if character = mark then .ok rest else .error .invalid

/-- Read a moment. -/
def readChars (text : List Char) : Except MomentError Moment := do
  let (year, text) ← readYear text
  let text ← readMark '-' text
  let (month, text) ← readField 1 12 text
  let text ← readMark '-' text
  let (day, text) ← readField 1 31 text
  let (hour, text) ← readField 0 23 (Text.trimStart text)
  let text ← readMark ':' text
  let (minute, text) ← readField 0 59 text
  let text ← readMark ':' text
  let (second, text) ← readField 0 60 text
  if text.isEmpty then
    match ofFields? year month day hour minute second with
    | some moment => return moment
    | none => throw .outOfRange
  else
    throw .tooLong

/-- Read a moment from its text. -/
def ofText (text : String) : Except MomentError Moment :=
  readChars text.toList

end Moment

end Scenario
