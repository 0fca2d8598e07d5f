/-!
# Plain text

A text for a terminal may hold commands to it: an escape character and what
follows it, up to a character that ends the sequence.  Printed elsewhere, the
text is reduced to what the terminal would show.  Sequences are recognised by
the usual states: between commands, behind an escape character, inside a
control sequence with its parameters, inside the text of a command for the
device or the operating system.

White space counts as shown wherever the terminal would act on it, even in the
middle of a sequence, and what follows it is then shown as well, up to the next
character that is not.
-/

namespace Scenario.Text

/-- Where in a command to the terminal a text has arrived. -/
inductive CommandState where
  /-- Between commands. -/
  | ground
  | escape
  | escapeIntermediate
  | controlEntry
  | controlParameter
  | controlIntermediate
  | controlIgnored
  | deviceEntry
  | deviceParameter
  | deviceIntermediate
  | deviceText
  | deviceIgnored
  | systemText
  | otherText
deriving DecidableEq, Repr

namespace CommandState

/-- Among the bytes that encode a character beyond ASCII is the one that ends a
text for the terminal. -/
def holdsTerminator (character : Char) : Bool :=
  0x80 ≤ character.toNat &&
    (String.utf8EncodeChar character).any (· == 0x9C)

/-- The control characters are obeyed in the state, and not taken as a part of
a text. -/
def obeysControls : CommandState → Bool
  | ground | escape | escapeIntermediate => true
  | controlEntry | controlParameter => true
  | controlIntermediate | controlIgnored => true
  | _ => false

/-- The terminal shows the character in the state, white space included. -/
def shows (state : CommandState) (character : Char) : Bool :=
  if character ∈ ['\t', '\n', '\x0c', '\r'] then
    state.obeysControls
  else
    state == ground && ' ' ≤ character && character ≠ '\x7f'

/-- The state behind an escape character and the character that follows. -/
def afterEscape (character : Char) : CommandState :=
  match character with
  | '[' => controlEntry
  | ']' => systemText
  | 'P' => deviceEntry
  | 'X' | '^' | '_' => otherText
  | _ => if character ≤ '/' then escapeIntermediate else ground

/-- The state behind a printable ASCII character. -/
def afterPrintable (state : CommandState) (character : Char) : CommandState :=
  let isIntermediate := character ≤ '/'
  let isParameter := !isIntermediate && character ≤ '?'
  let isSeparated := isParameter && character ≤ ';'
  match state with
  | ground => ground
  | escape => afterEscape character
  | escapeIntermediate =>
    if isIntermediate then escapeIntermediate else ground
  | controlEntry =>
    if isIntermediate then controlIntermediate
    else if isParameter then controlParameter
    else ground
  | controlParameter =>
    if isIntermediate then controlIntermediate
    else if isSeparated then controlParameter
    else if isParameter then controlIgnored
    else ground
  | controlIntermediate =>
    if isIntermediate then controlIntermediate
    else if isParameter then controlIgnored
    else ground
  | controlIgnored =>
    if isIntermediate || isParameter then controlIgnored else ground
  | deviceEntry =>
    if isIntermediate then deviceIntermediate
    else if isParameter then deviceParameter
    else deviceText
  | deviceParameter =>
    if isIntermediate then deviceIntermediate
    else if isSeparated then deviceParameter
    else if isParameter then deviceIgnored
    else deviceText
  | deviceIntermediate =>
    if isIntermediate then deviceIntermediate
    else if isParameter then deviceIgnored
    else deviceText
  | deviceText => deviceText
  | deviceIgnored => deviceIgnored
  | systemText => systemText
  | otherText => otherText

/-- The state behind a character. -/
def next (state : CommandState) (character : Char) : CommandState :=
  if character = '\x1b' then
    escape
  else if character = '\x18' ∨ character = '\x1a' then
    ground
  else if ' ' ≤ character ∧ character < '\x7f' then
    state.afterPrintable character
  else
    match state with
    | systemText => if character = '\x07' then ground else state
    | deviceText | deviceIgnored | otherText =>
      if holdsTerminator character then ground else state
    | _ => state

end CommandState

/-- The state by which a character is judged: behind one that was shown, text
goes on being shown. -/
def CommandState.judging (state : CommandState) (showing : Bool) :
    CommandState :=
  if showing then ground else state

/-- What a terminal shows of a text.  While characters are shown, white space
and ASCII characters leave the state as it is, so a sequence that white space
interrupts is taken up again behind them. -/
def shownFrom
    (state : CommandState)
    (showing : Bool) :
    List Char → List Char
  | [] => []
  | character :: rest =>
    if (state.judging showing).shows character then
      character ::
        shownFrom (if character.toNat < 0x80 then state else .ground) true rest
    else
      shownFrom (state.next character) false rest

/-- The text without the commands in it. -/
def withoutCommands (text : String) : String :=
  String.ofList (shownFrom .ground false text.toList)

end Scenario.Text
