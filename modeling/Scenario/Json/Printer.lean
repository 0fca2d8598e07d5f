import Scenario.Decimal.FloatText
import Scenario.Json.Value
import Scenario.Text.Hexadecimal

/-!
# Writing JSON text

A value is written over several lines: every item and every field stands on a
line of its own, indented by two blanks for each list or object around it.  An
empty list or object takes no line.  The fields of an object are written in
the order in which they stand.

In a string the quote, the backslash and the control characters below the
space are escaped, those without a letter of their own by a `\u` escape in
lower case.  All other characters stand for themselves.
-/

namespace Scenario.Json

/-- How a character is written inside a string. -/
def escape (character : Char) : List Char :=
  match character with
  | '"' => ['\\', '"']
  | '\\' => ['\\', '\\']
  | '\x08' => ['\\', 'b']
  | '\x0c' => ['\\', 'f']
  | '\n' => ['\\', 'n']
  | '\r' => ['\\', 'r']
  | '\t' => ['\\', 't']
  | _ =>
    if character < ' ' then
      ['\\', 'u', '0', '0', Text.hexChar (character.toNat / 16),
        Text.hexChar (character.toNat % 16)]
    else
      [character]

/-- Write a string with its quotes. -/
def quote (text : String) : List Char :=
  '"' :: (text.toList.flatMap escape ++ ['"'])

/-- Write a number. -/
def numberText : Number → List Char
  | .integer value =>
    if value < 0 then
      '-' :: Decimal.digitChars value.natAbs
    else
      Decimal.digitChars value.natAbs
  | .float value => (Decimal.messageStyle.text value).toList

/-- Begin a line inside `depth` lists and objects. -/
def newLine (depth : Nat) : List Char :=
  '\n' :: List.replicate (2 * depth) ' '

mutual

/-- Write a value that lies inside `depth` lists and objects. -/
def printValue (depth : Nat) : Value → List Char
  | .null => "null".toList
  | .bool true => "true".toList
  | .bool false => "false".toList
  | .number number => numberText number
  | .string text => quote text
  | .array [] => ['[', ']']
  | .array (first :: items) =>
    '[' :: (newLine (depth + 1) ++ printValue (depth + 1) first ++
      printItems (depth + 1) items ++ newLine depth ++ [']'])
  | .object [] => ['\x7b', '\x7d']
  | .object ((name, value) :: fields) =>
    '\x7b' :: (newLine (depth + 1) ++ quote name ++ [':', ' '] ++
      printValue (depth + 1) value ++ printFields (depth + 1) fields ++
      newLine depth ++ ['\x7d'])

/-- Write the items behind the first one. -/
def printItems (depth : Nat) : List Value → List Char
  | [] => []
  | item :: items =>
    ',' :: (newLine depth ++ printValue depth item ++
      printItems depth items)

/-- Write the fields behind the first one. -/
def printFields (depth : Nat) : List (String × Value) → List Char
  | [] => []
  | (name, value) :: fields =>
    ',' :: (newLine depth ++ quote name ++ [':', ' '] ++
      printValue depth value ++ printFields depth fields)

end

/-- Write a value as a text. -/
def print (value : Value) : String :=
  String.ofList (printValue 0 value)

end Scenario.Json
