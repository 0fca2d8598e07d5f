/-!
# Cutting texts

A text is cut at every occurrence of a mark.

A text is also cut at positions, which count the bytes of its encoding.  A
position inside a character stands for the one in front of it.
-/

namespace Scenario.Text

/-- The pieces of a text between the occurrences of a mark. -/
def cutAt (mark : Char) : List Char → List (List Char)
  | [] => [[]]
  | character :: rest =>
    if character = mark then
      [] :: cutAt mark rest
    else
      match cutAt mark rest with
      | [] => [[character]]
      | first :: others => (character :: first) :: others

/-! ## Positions -/

/-- The characters that lie within the first bytes of a text. -/
def takeBytes : Nat → List Char → List Char
  | _, [] => []
  | count, character :: rest =>
    if character.utf8Size ≤ count then
      character :: takeBytes (count - character.utf8Size) rest
    else
      []

/-- What follows the characters that lie within the first bytes. -/
def dropBytes : Nat → List Char → List Char
  | _, [] => []
  | count, character :: rest =>
    if character.utf8Size ≤ count then
      dropBytes (count - character.utf8Size) rest
    else
      character :: rest

/-- The part of a text between two positions. -/
def between (start stop : Nat) (text : List Char) : List Char :=
  takeBytes (stop - start) (dropBytes start text)

/-- The characters of a text with their positions, counted from a given one. -/
def withPositions (start : Nat) : List Char → List (Nat × Char)
  | [] => []
  | character :: rest =>
    (start, character) :: withPositions (start + character.utf8Size) rest

end Scenario.Text
