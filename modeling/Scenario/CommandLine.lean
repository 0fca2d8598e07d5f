import Scenario.FileTree.Path
import Scenario.Text.Plain

/-!
# The command line

The program takes two options with a value, the scenario and the place for the
result, and two flags that ask for information.  Options have a short and a
long name.  A value stands behind its option, or is attached to it: to a long
name with an equals sign, to a short one with or without.

Arguments are read from left to right.  A value is taken in only when the next
option or the end of the line is reached, and an argument that the program does
not know is reported before a value that still waits.
-/

namespace Scenario

/-- An option that takes a value. -/
inductive ValueOption where
  | scenario
  | out
deriving DecidableEq, Repr

namespace ValueOption

/-- The long name. -/
def longName : ValueOption → String
  | scenario => "scenario"
  | out => "out"

/-- The short name. -/
def shortName : ValueOption → Char
  | scenario => 's'
  | out => 'o'

/-- The option as messages show it. -/
def usage (option : ValueOption) : String :=
  s!"--{option.longName} <PATH>"

end ValueOption

/-- A flag that asks for information instead of a run. -/
inductive InformationFlag where
  | help
  | version
deriving DecidableEq, Repr

namespace InformationFlag

/-- The long name. -/
def longName : InformationFlag → String
  | help => "help"
  | version => "version"

/-- The short name. -/
def shortName : InformationFlag → Char
  | help => 'h'
  | version => 'V'

end InformationFlag

/-- Why a command line cannot be read. -/
inductive UsageError where
  | missingScenario
  | unexpectedArgument (argument : String)
  | missingValue (option : ValueOption)
  | repeatedOption (option : ValueOption)
  | unexpectedValue (flag : InformationFlag) (value : String)
deriving DecidableEq, Repr

/-- The error in words.  What it shows of the command line is made plain. -/
def UsageError.message : UsageError → String
  | missingScenario => "the following required arguments were not provided:"
  | unexpectedArgument argument =>
    let shown := Text.withoutCommands argument
    s!"unexpected argument '{shown}' found"
  | missingValue option =>
    s!"a value is required for '{option.usage}' but none was supplied"
  | repeatedOption option =>
    s!"the argument '{option.usage}' cannot be used multiple times"
  | unexpectedValue flag value =>
    let shown := Text.withoutCommands value
    s!"unexpected value '{shown}' for '--{flag.longName}' found; " ++
      "no more were expected"

/-- What a run is started with. -/
structure Options where
  scenario : String
  out : String := "result.json"
deriving DecidableEq, Repr

/-- What a command line asks for. -/
inductive Request where
  | run (options : Options)
  | information (flag : InformationFlag)
deriving DecidableEq, Repr

namespace CommandLine

/-- The values that have been taken in. -/
structure Values where
  scenario? : Option String := none
  out? : Option String := none
deriving DecidableEq, Repr

namespace Values

/-- The value of an option, if it has been taken in. -/
def get? (values : Values) : ValueOption → Option String
  | .scenario => values.scenario?
  | .out => values.out?

/-- The values with that of one option set. -/
def set (values : Values) (option : ValueOption) (value : String) : Values :=
  match option with
  | .scenario => { values with scenario? := some value }
  | .out => { values with out? := some value }

/-- Take in the value of an option. -/
def take
    (values : Values)
    (option : ValueOption)
    (value? : Option String) :
    Except UsageError Values :=
  match value? with
  | none => .error (.missingValue option)
  | some value =>
    if (values.get? option).isSome then
      .error (.repeatedOption option)
    else if value.isEmpty then
      .error (.missingValue option)
    else
      .ok (values.set option value)

/-- What the values ask for at the end of the line. -/
def request (values : Values) : Except UsageError Request :=
  match values.scenario? with
  | none => .error .missingScenario
  | some scenario =>
    match values.out? with
    | none => .ok (.run { scenario })
    | some out => .ok (.run { scenario, out })

end Values

/-- How far a command line has been read: the values taken in, and the option
that waits, with its value if it has one. -/
structure Progress where
  values : Values := {}
  waiting? : Option (ValueOption × Option String) := none
deriving DecidableEq, Repr

namespace Progress

/-- Take in what waits. -/
def settle (progress : Progress) : Except UsageError Values :=
  match progress.waiting? with
  | none => .ok progress.values
  | some (option, value?) => progress.values.take option value?

/-- Meet an option, with a value if one is attached. -/
def meet
    (progress : Progress)
    (option : ValueOption)
    (attached? : Option String) :
    Except UsageError Progress := do
  let values ← progress.settle
  match attached? with
  | none => return { values, waiting? := some (option, none) }
  | some value => return { values := ← values.take option (some value) }

/-- Meet a flag. -/
def inform
    (progress : Progress)
    (flag : InformationFlag) :
    Except UsageError Request := do
  let _ ← progress.settle
  return .information flag

end Progress

/-- What an argument is, by its looks. -/
inductive Argument where
  /-- Two dashes alone: what follows is no option. -/
  | separator
  | option (option : ValueOption) (attached? : Option String)
  | flag (flag : InformationFlag)
  | flagWithValue (flag : InformationFlag) (value : String)
  /-- An option that the program does not have, as messages show it. -/
  | unknown (shown : String)
  | plain (text : String)
deriving DecidableEq, Repr

namespace Argument

/-- An argument with a long name. -/
def ofLong (text : List Char) : Argument :=
  let name := String.ofList (text.takeWhile (· ≠ '='))
  let value? :=
    match text.dropWhile (· ≠ '=') with
    | [] => none
    | _ :: value => some (String.ofList value)
  if name = ValueOption.scenario.longName then option .scenario value?
  else if name = ValueOption.out.longName then option .out value?
  else if name = InformationFlag.help.longName then
    (value?.map (flagWithValue .help)).getD (flag .help)
  else if name = InformationFlag.version.longName then
    (value?.map (flagWithValue .version)).getD (flag .version)
  else unknown s!"--{name}"

/-- The value attached to a short name. -/
def attached? : List Char → Option String
  | [] => none
  | '=' :: value => some (String.ofList value)
  | value => some (String.ofList value)

/-- An argument with a short name. -/
def ofShort (name : Char) (rest : List Char) : Argument :=
  if name = ValueOption.scenario.shortName then
    option .scenario (attached? rest)
  else if name = ValueOption.out.shortName then option .out (attached? rest)
  else if name = InformationFlag.help.shortName then flag .help
  else if name = InformationFlag.version.shortName then flag .version
  else unknown (String.ofList ['-', name])

/-- What an argument is. -/
def ofText (text : String) : Argument :=
  match text.toList with
  | ['-', '-'] => separator
  | '-' :: '-' :: long => ofLong long
  | '-' :: name :: rest => ofShort name rest
  | _ => plain text

end Argument

/-- Read the arguments that are left. -/
def readFrom (progress : Progress) :
    List String → Except UsageError Request
  | [] => do (← progress.settle).request
  | text :: rest =>
    match Argument.ofText text with
    | .separator =>
      match rest with
      | [] => do (← progress.settle).request
      | argument :: _ => .error (.unexpectedArgument argument)
    | .option option attached? => do
      readFrom (← progress.meet option attached?) rest
    | .flag flag => progress.inform flag
    | .flagWithValue flag value => .error (.unexpectedValue flag value)
    | .unknown shown => .error (.unexpectedArgument shown)
    | .plain value =>
      match progress.waiting? with
      | some (option, none) =>
        readFrom { progress with waiting? := some (option, some value) } rest
      | _ => .error (.unexpectedArgument value)

/-- Read a command line. -/
def read (arguments : List String) : Except UsageError Request :=
  readFrom {} arguments

end CommandLine

/-- A path that a scenario cannot have. -/
inductive InputError where
  | noJsonExtension
deriving DecidableEq, Repr

/-- The text of the error. -/
def InputError.message : InputError → String
  | noJsonExtension => "Invalid input: scenario must have json ext"

/-- The last name of a path; dots for the directory itself do not count. -/
def Path.fileName? (path : Path) : Option String :=
  (path.names.filter (· ≠ ".")).getLast?.filter (· ≠ "..")

/-- What follows the last point of a name, unless nothing stands before
that point. -/
def extension? (name : String) : Option String :=
  let reversed := name.toList.reverse
  match reversed.dropWhile (· ≠ '.') with
  | [] => none
  | [_] => none
  | _ => some (String.ofList (reversed.takeWhile (· ≠ '.')).reverse)

/-- Check that the scenario of a run has the extension `json`. -/
def Options.check (options : Options) : Except InputError Unit :=
  if (Path.ofText options.scenario).fileName?.bind extension? = some "json" then
    .ok ()
  else
    .error .noJsonExtension

end Scenario
