import Scenario.Text.Blank
import Scenario.Text.Hexadecimal
import Scenario.Text.Letter

/-!
# Patterns

A pattern is a regular expression: alternatives between bars, each a sequence
of items that may be repeated, among them groups in parentheses and sets of
characters in brackets.  This module tells which texts are patterns; nothing is
ever matched.

Flags change how the rest of a group is read.  Unless the flag for scripts is
off, no property of characters is known beyond the names that stand between
colons in a set: there are no short names of sets, no ends of words, and cases
cannot be ignored.  If it is off, sets hold ASCII characters only, so none can
be the complement of another, and the point, which stands for every character,
is not available.  Repetition by count is not available at all.

Groups, sets, repetitions, sequences and alternatives may lie inside of one
another up to a greatest depth.
-/

namespace Scenario.Text.Pattern

/-! ## Flags -/

/-- The flags that decide what is a pattern. -/
structure Flags where
  /-- Characters of all scripts are met. -/
  scripts : Bool := true
  ignoreCase : Bool := false
  /-- Blanks and comments do not count. -/
  spaced : Bool := false
deriving DecidableEq, Repr

namespace Flags

/-- The letters that are flags, and the sign that switches those behind it
off. -/
def letters : List Char :=
  ['i', 'm', 's', 'U', 'u', 'R', 'x', '-']

/-- The text may stand where flags are changed. -/
def areLetters (text : List Char) : Bool :=
  text.all (letters.contains ·) && decide text.Nodup &&
    text.getLast? != some '-'

/-- Switch the flag with a letter. -/
def switch (flags : Flags) (letter : Char) (on : Bool) : Flags :=
  match letter with
  | 'u' => { flags with scripts := on }
  | 'i' => { flags with ignoreCase := on }
  | 'x' => { flags with spaced := on }
  | _ => flags

/-- Change the flags as a text says. -/
def change (flags : Flags) (text : List Char) : Flags :=
  let behindSign := text.dropWhile (· ≠ '-')
  behindSign.foldl (·.switch · false) <|
    (text.takeWhile (· ≠ '-')).foldl (·.switch · true) flags

/-- Cases would have to be ignored for characters of all scripts. -/
def needCases (flags : Flags) : Bool :=
  flags.scripts && flags.ignoreCase

end Flags

/-- Drop blanks and comments, which reach from a number sign to the end of the
line. -/
def dropSpaced (inComment : Bool) : List Char → List Char
  | [] => []
  | character :: rest =>
    if inComment then dropSpaced (character ≠ '\n') rest
    else if character = '#' then dropSpaced true rest
    else if isBlank character then dropSpaced false rest
    else character :: rest

/-- Drop what does not count in front of a text. -/
def dropIgnored (flags : Flags) (text : List Char) : List Char :=
  if flags.spaced then dropSpaced false text else text

/-- The character that tells whether a dash makes a range.  Where blanks do not
count, neither do they here, nor does a number sign between them; what would be
a comment does. -/
def behindDash? (flags : Flags) (text : List Char) : Option Char :=
  if flags.spaced then
    match trimStart text with
    | '#' :: rest => (trimStart rest).head?
    | text => text.head?
  else
    text.head?

/-! ## Depth -/

/-- How deeply the parts of a pattern may lie inside of one another. -/
def greatestDepth : Nat := 250

/-- The parts that have been read of something larger.  Each is known by its
depth, which is zero for a part that holds no others. -/
structure Parts where
  count : Nat := 0
  /-- The greatest depth of the parts in front of the last one. -/
  before : Nat := 0
  /-- The depth of the last part. -/
  last : Nat := 0
deriving DecidableEq, Repr

namespace Parts

/-- The parts and one more. -/
def add (parts : Parts) (depth : Nat) : Parts where
  count := parts.count + 1
  before := max parts.before parts.last
  last := depth

/-- The parts with the last one put into a part of its own. -/
def wrapLast (parts : Parts) : Parts :=
  { parts with last := parts.last + 1 }

/-- The depth of what the parts make up.  A part that is alone stands for the
whole. -/
def depth (parts : Parts) : Nat :=
  if parts.count ≤ 1 then
    parts.last
  else
    max parts.before parts.last + 1

end Parts

/-! ## Escapes -/

/-- What a backslash and the characters behind it stand for. -/
inductive Escape where
  /-- A character, given by its number in two digits or in another way. -/
  | character (value : Char) (isByte : Bool)
  /-- A set with a short name, or its complement. -/
  | namedSet (isComplement : Bool)
  /-- A place in the text, which may be the end of a word. -/
  | place (ofWord : Bool)
deriving DecidableEq, Repr

/-- Read a number of hexadecimal digits. -/
def readHex
    (flags : Flags)
    (count value : Nat)
    (text : List Char) :
    Option (Nat × List Char) :=
  match count with
  | 0 => some (value, text)
  | count + 1 =>
    match dropIgnored flags text with
    | [] => none
    | first :: rest => do
      readHex flags count (value * 16 + (← hexDigit? first)) rest

/-- Read a character that is given by its number. -/
def readNumbered
    (flags : Flags)
    (count : Nat)
    (text : List Char) :
    Option (Escape × List Char) := do
  let (number, rest) ← readHex flags count 0 text
  if number.isValidChar then
    some (.character (Char.ofNat number) (count = 2), rest)
  else
    none

/-- The control characters under their letters. -/
def controlNames : List (Char × Char) :=
  [('a', '\x07'), ('f', '\x0c'), ('t', '\t'), ('n', '\n'), ('r', '\r'),
   ('v', '\x0b')]

/-- Read what follows a backslash.  The characters of ASCII that are neither
letters nor digits stand for themselves. -/
def readEscape
    (flags : Flags) :
    List Char → Option (Escape × List Char)
  | [] => none
  | 'x' :: rest => readNumbered flags 2 rest
  | 'u' :: rest => readNumbered flags 4 rest
  | 'U' :: rest => readNumbered flags 8 rest
  | letter :: rest =>
    if letter ∈ ['d', 's', 'w'] then some (.namedSet false, rest)
    else if letter ∈ ['D', 'S', 'W'] then some (.namedSet true, rest)
    else if letter ∈ ['A', 'z'] then some (.place false, rest)
    else if letter ∈ ['b', 'B', '<', '>'] then some (.place true, rest)
    else
      match controlNames.lookup letter with
      | some control => some (.character control false, rest)
      | none =>
        if letter.toNat < 0x80 ∧ !letter.isAlphanum then
          some (.character letter false, rest)
        else
          none

/-- The escape may be an item of a sequence. -/
def Escape.isItem (flags : Flags) : Escape → Bool
  | .character value isByte =>
    !flags.needCases && (flags.scripts || !isByte || value.toNat < 0x80)
  | .namedSet isComplement => !flags.scripts && !isComplement
  | .place ofWord => !(flags.scripts && ofWord)

/-! ## Sets -/

/-- The character may be a member of a set. -/
def isMember (flags : Flags) (character : Char) : Bool :=
  if flags.scripts then !flags.ignoreCase else character.toNat < 0x80

/-- The sets whose names stand between colons. -/
def setNames : List String :=
  ["alnum", "alpha", "ascii", "blank", "cntrl", "digit", "graph", "lower",
   "print", "punct", "space", "upper", "word", "xdigit"]

/-- Read the name of a set behind its bracket, or of its complement. -/
def readSetName? (text : List Char) : Option (Bool × List Char) :=
  match text with
  | ':' :: text =>
    let isComplement := text.head? == some '^'
    let text := if isComplement then text.drop 1 else text
    let name := text.takeWhile (· ≠ ':')
    match text.drop name.length with
    | ':' :: ']' :: rest =>
      if String.ofList name ∈ setNames then some (isComplement, rest) else none
    | _ => none
  | _ => none

/-- Read the dashes that stand for themselves at the beginning of a set. -/
def readDashes
    (flags : Flags)
    (members : Parts)
    (text : List Char) :
    Nat → Parts × List Char
  | 0 => (members, text)
  | fuel + 1 =>
    match text with
    | '-' :: rest =>
      readDashes flags (members.add 0) (dropIgnored flags rest) fuel
    | _ => (members, text)

/-- Read the beginning of a set behind its bracket, and the members that stand
there.  A closing bracket that comes first stands for itself. -/
def openSet
    (flags : Flags)
    (text : List Char) :
    Option (Parts × List Char) :=
  let text := dropIgnored flags text
  let isComplement := text.head? == some '^'
  if isComplement ∧ !flags.scripts then
    none
  else
    let text := if isComplement then dropIgnored flags (text.drop 1) else text
    let (dashes, rest) := readDashes flags {} text text.length
    if 0 < dashes.count then
      if isMember flags '-' then some (dashes, rest) else none
    else if text.head? = some ']' then
      if isMember flags ']' then some (dashes.add 0, text.drop 1) else none
    else
      some (dashes, text)

/-- Read a member of a set: a character, or a set with a short name. -/
def readMember
    (flags : Flags)
    (text : List Char) :
    Option (Option Char × List Char) :=
  match text with
  | [] => none
  | '\\' :: rest =>
    match readEscape flags rest with
    | some (.character character _, rest) =>
      if isMember flags character then some (some character, rest) else none
    | some (.namedSet isComplement, rest) =>
      if flags.scripts ∨ isComplement then none else some (none, rest)
    | _ => none
  | character :: rest =>
    if isMember flags character then some (some character, rest) else none

/-- Read a member of a set or a range of members.  A dash in front of a closing
bracket or of another dash does not make a range. -/
def readRange (flags : Flags) (text : List Char) : Option (List Char) := do
  let (first, rest) ← readMember flags text
  match dropIgnored flags rest with
  | '-' :: behind =>
    if [some ']', some '-'].contains (behindDash? flags behind) then
      some rest
    else
      match first, ← readMember flags (dropIgnored flags behind) with
      | some first, (some last, rest) =>
        if first ≤ last then some rest else none
      | _, _ => none
  | _ => some rest

/-! ## Groups -/

/-- The character may stand in the name of a group behind its first one. -/
def isNameChar (character : Char) : Bool :=
  isAlphanumeric character || ['_', '.', '[', ']'].contains character

/-- Read the name of a group, up to the angle that closes it. -/
def readGroupName (text : List Char) : Option (List Char × List Char) :=
  let name := text.takeWhile (· ≠ '>')
  match name, text.drop name.length with
  | first :: others, _ :: rest =>
    if (isLetter first || first == '_') && others.all isNameChar then
      some (name, rest)
    else
      none
  | _, _ => none

/-! ## The whole pattern -/

/-- What has been read of a group, or of the whole pattern. -/
structure Layer where
  flags : Flags := {}
  /-- The alternatives that have ended. -/
  alternatives : Parts := {}
  /-- The items of the alternative that has not. -/
  items : Parts := {}
  /-- The last item may be repeated. -/
  repeatable : Bool := false
deriving DecidableEq, Repr

namespace Layer

/-- The layer behind an item. -/
def behindItem (layer : Layer) (depth : Nat) : Layer :=
  { layer with items := layer.items.add depth, repeatable := true }

/-- The layer behind a change of its flags. -/
def behindFlags (layer : Layer) (flags : Flags) : Layer :=
  { layer with flags, items := layer.items.add 0, repeatable := false }

/-- The layer behind a bar. -/
def behindBar (layer : Layer) : Layer where
  flags := layer.flags
  alternatives := layer.alternatives.add layer.items.depth

/-- The depth of what has been read. -/
def depth (layer : Layer) : Nat :=
  (layer.alternatives.add layer.items.depth).depth

end Layer

/-- What has been read of a set. -/
structure SetLayer where
  /-- The depth of what stands in front of the last operator. -/
  operand? : Option Nat := none
  /-- The members behind it. -/
  members : Parts := {}
deriving DecidableEq, Repr

namespace SetLayer

/-- The depth of what has been read.  Operators associate to the left. -/
def depth (layer : SetLayer) : Nat :=
  match layer.operand? with
  | none => layer.members.depth
  | some operand => max operand layer.members.depth + 1

/-- The layer behind a member. -/
def behindMember (layer : SetLayer) (depth : Nat) : SetLayer :=
  { layer with members := layer.members.add depth }

/-- The layer behind an operator. -/
def behindOperator (layer : SetLayer) : SetLayer where
  operand? := some layer.depth

end SetLayer

/-- How far a pattern has been read. -/
structure Reading where
  /-- The innermost group that is open, or the whole pattern. -/
  layer : Layer := {}
  /-- What is open around it, the nearest first. -/
  outer : List Layer := []
  groupNames : List (List Char) := []
  /-- The sets that are open, the innermost first. -/
  sets : List SetLayer := []
deriving DecidableEq, Repr

namespace Reading

/-- The flags that hold. -/
def flags (reading : Reading) : Flags :=
  reading.layer.flags

/-- The reading behind an item. -/
def behindItem (reading : Reading) (depth : Nat) : Reading :=
  { reading with layer := reading.layer.behindItem depth }

/-- Open a group whose flags are changed by a text. -/
def enter (reading : Reading) (changes : List Char) : Reading :=
  { reading with
    layer := { flags := reading.flags.change changes }
    outer := reading.layer :: reading.outer }

/-- Open a group with a name of its own. -/
def enterNamed
    (reading : Reading)
    (text : List Char) :
    Option (Reading × List Char) := do
  let (name, rest) ← readGroupName text
  if name ∈ reading.groupNames then
    none
  else
    let groupNames := name :: reading.groupNames
    some ({ reading with groupNames }.enter [], rest)

/-- Read what follows an opening parenthesis. -/
def readGroup
    (reading : Reading)
    (text : List Char) :
    Option (Reading × List Char) :=
  match dropIgnored reading.flags text with
  | '?' :: 'P' :: '<' :: rest => reading.enterNamed rest
  | '?' :: '<' :: rest => reading.enterNamed rest
  | '?' :: rest =>
    let changes := rest.takeWhile fun character =>
      character ≠ ':' && character ≠ ')'
    if Flags.areLetters changes then
      match rest.drop changes.length with
      | ':' :: rest => some (reading.enter changes, rest)
      | _ :: rest =>
        if changes.isEmpty then
          none
        else
          let flags := reading.flags.change changes
          some ({ reading with layer := reading.layer.behindFlags flags }, rest)
      | [] => none
    else
      none
  | rest => some (reading.enter [], rest)

/-- Repeat the last item. -/
def repeatItem (reading : Reading) : Option Reading :=
  if reading.layer.repeatable then
    let items := reading.layer.items.wrapLast
    some { reading with layer := { reading.layer with items } }
  else
    none

/-- Drop the sign that asks for as few repetitions as possible. -/
def dropLazy : List Char → List Char
  | '?' :: rest => rest
  | text => text

/-- Close the innermost group. -/
def leave (reading : Reading) : Option Reading :=
  match reading.outer with
  | [] => none
  | layer :: outer =>
    some ({ reading with layer, outer }.behindItem (reading.layer.depth + 1))

/-- Open a set. -/
def enterSet
    (reading : Reading)
    (text : List Char) :
    Option (Reading × List Char) := do
  let (members, rest) ← openSet reading.flags text
  some ({ reading with sets := { members } :: reading.sets }, rest)

/-- Close a set inside of others. -/
def leaveSet
    (reading : Reading)
    (set : SetLayer) :
    List SetLayer → Reading
  | [] => { reading with sets := [] }.behindItem (set.depth + 1)
  | around :: outer =>
    { reading with sets := around.behindMember (set.depth + 1) :: outer }

/-- Read on outside of sets, from a character and what follows it. -/
def stepOutside
    (reading : Reading)
    (character : Char)
    (rest : List Char) :
    Option (Reading × List Char) :=
  match character with
  | '(' => reading.readGroup rest
  | ')' => reading.leave.map (·, rest)
  | '|' => some ({ reading with layer := reading.layer.behindBar }, rest)
  | '[' => reading.enterSet rest
  | '?' | '*' | '+' => reading.repeatItem.map (·, dropLazy rest)
  | '{' => none
  | '\\' => do
    let (escape, rest) ← readEscape reading.flags rest
    if escape.isItem reading.flags then
      some (reading.behindItem 0, rest)
    else
      none
  | '.' =>
    if reading.flags.scripts then some (reading.behindItem 0, rest) else none
  | '^' | '$' => some (reading.behindItem 0, rest)
  | _ =>
    if reading.flags.needCases then none
    else some (reading.behindItem 0, rest)

/-- Read on inside of a set, from a character and what follows it. -/
def stepInside
    (reading : Reading)
    (set : SetLayer)
    (outer : List SetLayer)
    (character : Char)
    (rest : List Char) :
    Option (Reading × List Char) :=
  let behindMember := { reading with sets := set.behindMember 0 :: outer }
  let behindOperator := { reading with sets := set.behindOperator :: outer }
  match character, rest with
  | '[', rest =>
    match readSetName? rest with
    | some (isComplement, rest) =>
      if reading.flags.needCases ∨ (isComplement ∧ !reading.flags.scripts) then
        none
      else
        some (behindMember, rest)
    | none => reading.enterSet rest
  | ']', rest => some (reading.leaveSet set outer, rest)
  | '&', '&' :: rest => some (behindOperator, rest)
  | '-', '-' :: rest => some (behindOperator, rest)
  | '~', '~' :: rest => some (behindOperator, rest)
  | character, rest =>
    (readRange reading.flags (character :: rest)).map (behindMember, ·)

/-- Read on from a character and what follows it. -/
def step
    (reading : Reading)
    (character : Char)
    (rest : List Char) :
    Option (Reading × List Char) :=
  match reading.sets with
  | [] => reading.stepOutside character rest
  | set :: outer => reading.stepInside set outer character rest

/-- The pattern may end here. -/
def isComplete (reading : Reading) : Bool :=
  reading.sets.isEmpty && reading.outer.isEmpty &&
    decide (reading.layer.depth ≤ greatestDepth)

/-- Read on to the end.  The number bounds the steps; each step takes a
character at least. -/
def finishes (reading : Reading) (text : List Char) : Nat → Bool
  | 0 => false
  | fuel + 1 =>
    match dropIgnored reading.flags text with
    | [] => reading.isComplete
    | character :: rest =>
      match reading.step character rest with
      | none => false
      | some (reading, rest) => reading.finishes rest fuel

end Reading

end Pattern

/-- The text is a pattern. -/
def isPattern (text : List Char) : Bool :=
  Pattern.Reading.finishes {} text (text.length + 1)

end Scenario.Text
