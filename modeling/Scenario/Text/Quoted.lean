import Scenario.Text.Graphic

/-!
# Quoted text in messages

Messages and log lines show texts between double quotes.  A quote and a
backslash are escaped, the zero character and the usual blanks have letters,
and every other character that does not show itself is written as its number
in braces, in hexadecimal without leading zeros.
-/

namespace Scenario.Text

/-- How a character is shown inside quotes. -/
def showChar (character : Char) : List Char :=
  match character with
  | '\x00' => ['\\', '0']
  | '\t' => ['\\', 't']
  | '\n' => ['\\', 'n']
  | '\r' => ['\\', 'r']
  | '"' => ['\\', '"']
  | '\\' => ['\\', '\\']
  | _ =>
    if isGraphic character then
      [character]
    else
      ['\\', 'u', '\x7b'] ++ Nat.toDigits 16 character.toNat ++ ['\x7d']

/-- A text between quotes. -/
def quoted (text : String) : String :=
  String.ofList ('"' :: (text.toList.flatMap showChar ++ ['"']))

/-- A list of texts, each between quotes, between brackets. -/
def quotedList (texts : List String) : String :=
  "[" ++ ", ".intercalate (texts.map quoted) ++ "]"

end Scenario.Text
