/-!
# Hexadecimal digits

The sixteen digits are written in lower case and read in both cases.
-/

namespace Scenario.Text

/-- A hexadecimal digit in lower case. -/
def hexChar (digit : Nat) : Char :=
  if digit < 10 then
    Char.ofNat ('0'.toNat + digit)
  else
    Char.ofNat ('a'.toNat + digit - 10)

/-- The value of a hexadecimal digit. -/
def hexDigit? (character : Char) : Option Nat :=
  if '0' ≤ character ∧ character ≤ '9' then
    some (character.toNat - '0'.toNat)
  else if 'a' ≤ character ∧ character ≤ 'f' then
    some (character.toNat - 'a'.toNat + 10)
  else if 'A' ≤ character ∧ character ≤ 'F' then
    some (character.toNat - 'A'.toNat + 10)
  else
    none

/-- Reading a digit undoes writing it. -/
theorem hexDigit?_hexChar {digit : Nat} (single : digit < 16) :
    hexDigit? (hexChar digit) = some digit := by
  revert digit
  decide

end Scenario.Text
