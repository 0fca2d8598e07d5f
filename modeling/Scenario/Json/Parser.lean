import Scenario.Json.NumberReader
import Scenario.Json.StringReader

/-!
# Reading JSON text

`parse` reads one value and accepts nothing but blanks behind it.  At most 127
lists and objects may be open at once.  Of several fields of an object with
one name the last one counts.
-/

namespace Scenario.Json

/-- The lists and objects that may be open at once. -/
def nestingLimit : Nat := 127

/-- Read the items of a list behind one that has been read.  Every round reads
at least a comma, so `rounds` is enough when it is the length of the text. -/
def readMoreItems
    (item : List Char → Read Value) :
    (rounds : Nat) → (done : List Value) → List Char → Read Value
  | 0, _, _ => stop .endInList []
  | rounds + 1, done, text =>
    match skipBlanks text with
    | [] => stop .endInList []
    | ']' :: rest => .ok (.array done.reverse, rest)
    | ',' :: rest =>
      match skipBlanks rest with
      | [] => stop .endInValue []
      | ']' :: rest => stop .trailingComma (']' :: rest)
      | next =>
        andThen (item next) fun value rest =>
          readMoreItems item rounds (value :: done) rest
    | other => stop .expectedListEnd other

/-- Read a list behind its opening bracket. -/
def readItems
    (item : List Char → Read Value)
    (text : List Char) :
    Read Value :=
  match skipBlanks text with
  | [] => stop .endInList []
  | ']' :: rest => .ok (.array [], rest)
  | first =>
    andThen (item first) fun value rest =>
      readMoreItems item (rest.length + 1) [value] rest

/-- Read a field from the opening quote of its name on, and put it among the
fields read before. -/
def readField
    (item : List Char → Read Value)
    (done : List (String × Value)) :
    List Char → Read (List (String × Value))
  | '"' :: text =>
    andThen (readString [] text) fun name rest =>
      match skipBlanks rest with
      | [] => stop .endInObject []
      | ':' :: rest =>
        andThen (item rest) fun value rest =>
          .ok (insertField name value done, rest)
      | other => stop .expectedColon other
  | text => stop .keyNotString text

/-- Read the fields of an object behind one that has been read; `rounds` as
for lists. -/
def readMoreFields
    (item : List Char → Read Value) :
    (rounds : Nat) → (done : List (String × Value)) → List Char → Read Value
  | 0, _, _ => stop .endInObject []
  | rounds + 1, done, text =>
    match skipBlanks text with
    | [] => stop .endInObject []
    | '\x7d' :: rest => .ok (.object done, rest)
    | ',' :: rest =>
      match skipBlanks rest with
      | [] => stop .endInValue []
      | '\x7d' :: rest => stop .trailingComma ('\x7d' :: rest)
      | next =>
        andThen (readField item done next) fun done rest =>
          readMoreFields item rounds done rest
    | other => stop .expectedObjectEnd other

/-- Read an object behind its opening brace. -/
def readFields
    (item : List Char → Read Value)
    (text : List Char) :
    Read Value :=
  match skipBlanks text with
  | [] => stop .endInObject []
  | '\x7d' :: rest => .ok (.object [], rest)
  | first =>
    andThen (readField item [] first) fun done rest =>
      readMoreFields item (rest.length + 1) done rest

/-- Read a value.  What lies inside lists and objects is read by `inner?`; if
there is none, no list and no object may be opened. -/
def readNode
    (inner? : Option (List Char → Read Value))
    (text : List Char) :
    Read Value :=
  match skipBlanks text with
  | [] => stop .endInValue []
  | 'n' :: rest => readLiteral .null "ull".toList rest
  | 't' :: rest => readLiteral (.bool true) "rue".toList rest
  | 'f' :: rest => readLiteral (.bool false) "alse".toList rest
  | '-' :: rest =>
    andThen (readNumber true rest) fun number rest =>
      .ok (.number number, rest)
  | '"' :: rest =>
    andThen (readString [] rest) fun string rest =>
      .ok (.string string, rest)
  | '[' :: rest =>
    match inner? with
    | none => stop .nestingTooDeep ('[' :: rest)
    | some item => readItems item rest
  | '\x7b' :: rest =>
    match inner? with
    | none => stop .nestingTooDeep ('\x7b' :: rest)
    | some item => readFields item rest
  | character :: rest =>
    if character.isDigit then
      andThen (readNumber false (character :: rest)) fun number rest =>
        .ok (.number number, rest)
    else
      stop .expectedValue (character :: rest)

/-- Read a value in which at most `room` lists and objects are open at once. -/
def readValue : (room : Nat) → List Char → Read Value
  | 0 => readNode none
  | room + 1 => readNode (some (readValue room))

/-- Read a value that is all of a text. -/
def readAll (text : List Char) : Except Stop Value :=
  match readValue nestingLimit text with
  | .error stopped => .error stopped
  | .ok (value, rest) =>
    match skipBlanks rest with
    | [] => .ok value
    | other => .error { fault := .trailingCharacters, unread := other }

/-- Read a JSON text. -/
def parse (text : String) : Except SyntaxError Value :=
  (readAll text.toList).mapError (·.locate text.toList)

end Scenario.Json
