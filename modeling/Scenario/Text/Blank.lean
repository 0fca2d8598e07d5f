/-!
# White space

The characters with the Unicode property of white space: 25 in all, the six
ASCII ones among them.
-/

namespace Scenario.Text

/-- The white-space characters, as ranges in ascending order whose ends are
included. -/
def blankRanges : List (Nat × Nat) :=
  [(0x09, 0x0D), (0x20, 0x20), (0x85, 0x85), (0xA0, 0xA0), (0x1680, 0x1680),
   (0x2000, 0x200A), (0x2028, 0x2029), (0x202F, 0x202F), (0x205F, 0x205F),
   (0x3000, 0x3000)]

/-- The character is white space. -/
def isBlank (character : Char) : Bool :=
  blankRanges.any fun range =>
    range.1 ≤ character.toNat && character.toNat ≤ range.2

/-- Drop the white space in front of a text. -/
def trimStart (text : List Char) : List Char :=
  text.dropWhile isBlank

/-- Drop the white space at both ends of a text. -/
def trim (text : List Char) : List Char :=
  (trimStart (trimStart text).reverse).reverse

/-- A character that is not white space stops the trimming. -/
theorem trimStart_of_not_isBlank
    {character : Char}
    (visible : isBlank character = false)
    (rest : List Char) :
    trimStart (character :: rest) = character :: rest := by
  simp [trimStart, visible]

/-- There is nothing left to trim after trimming. -/
@[simp]
theorem trimStart_trimStart (text : List Char) :
    trimStart (trimStart text) = trimStart text := by
  induction text with
  | nil => rfl
  | cons character rest inductive_step =>
      cases blank : isBlank character
      · simp [trimStart, blank]
      · simpa [trimStart, blank] using inductive_step

end Scenario.Text
