import Scenario.CommandLine
import Scenario.Log.Filter
import Scenario.Runner

/-!
# The program

The program reads its command line, runs the scenario with the built-in actions
and reports by its exit code: zero if all steps were performed or a condition
did not hold, one if anything went wrong, two for a command line that cannot be
read.  What it has to tell goes to a log, of which the text of a filter says
how much is written.
-/

namespace Scenario

/-- Why a run of the program failed. -/
inductive ProgramError where
  | input (error : InputError)
  | scenario (path : String) (error : ScenarioError)
deriving DecidableEq, Repr

/-- The texts of the error and of those behind it, the nearest first. -/
def ProgramError.causes : ProgramError → List String
  | input error => [error.message]
  | scenario path error =>
    s!"scenario {path} failed" :: error.message :: error.causes

/-- What a program leaves when it ends. -/
structure Completion where
  exitCode : Nat
  output : String := ""
  /-- What is written to the log, or the error of the command line. -/
  errorOutput : String := ""
deriving DecidableEq, Repr

namespace Program

/-- The name under which the program is called. -/
def name : String := "scenario-runner"

/-- The version of the program. -/
def version : String := "1.0.0"

/-- The line that shows how the program is called. -/
def usageLine : String :=
  s!"Usage: {name} [OPTIONS] --scenario <PATH>"

/-- The help text. -/
def helpText : String :=
  "Run operations from a JSON scenario and save the annotated result\n" ++
  "\n" ++
  s!"{usageLine}\n" ++
  "\n" ++
  "Options:\n" ++
  "  -s, --scenario <PATH>  Path to the scenario " ++
    "(must have a .json extension)\n" ++
  "  -o, --out <PATH>       Path to save the result " ++
    "[default: result.json]\n" ++
  "  -h, --help             Print help\n" ++
  "  -V, --version          Print version\n"

/-- The answer to a flag that asks for information. -/
def informationText : InformationFlag → String
  | .help => helpText
  | .version => s!"{name} {version}\n"

/-- What is written for a command line that cannot be read. -/
def usageText (error : UsageError) : String :=
  let missing :=
    match error with
    | .missingScenario => s!"  {ValueOption.scenario.usage}\n"
    | _ => ""
  s!"error: {error.message}\n{missing}\n{usageLine}\n\n" ++
    "For more information, try '--help'.\n"

/-- An event of the program. -/
def event (level : Level) (message : String) : LogEvent :=
  { level, source := .program, message }

/-- The last event of a run of the program. -/
def lastEvent
    (out : String) :
    Except ProgramError Outcome → LogEvent
  | .ok .completed =>
    event .info s!"all steps completed, result saved to {out}"
  | .ok (.stoppedAtFalseCondition step) =>
    event .info <|
      s!"stopped at false condition (step {step}), " ++
        s!"result saved to {out}"
  | .error error =>
    event .error ("app failed: " ++ ": ".intercalate error.causes)

/-- The exit code of a run of the program. -/
def exitCode : Except ProgramError Outcome → Nat
  | .ok _ => 0
  | .error _ => 1

/-- The events that a filter lets through, a line for each. -/
def logText (filter : LogFilter) (log : List LogEvent) : String :=
  String.join ((log.filter filter.lets).map fun event => event.text ++ "\n")

variable {m : Type → Type} [Monad m] [FileAccess m]

/-- Check the options, and run the scenario with the built-in actions. -/
def runOptions
    (options : Options) :
    m (Logged (Except ProgramError Outcome)) :=
  match options.check with
  | .error error => pure { value := .error (.input error) }
  | .ok () => do
    let run ← runScenarioFile BuiltIn.registry options.scenario options.out
    return {
      value := run.value.mapError (.scenario options.scenario)
      log := run.log }

/-- Run the program with its arguments and the text of its log filter. -/
def run
    (arguments : List String)
    (filterText? : Option String) :
    m Completion :=
  match CommandLine.read arguments with
  | .error error => pure { exitCode := 2, errorOutput := usageText error }
  | .ok (.information flag) =>
    pure { exitCode := 0, output := informationText flag }
  | .ok (.run options) => do
    let run ← runOptions options
    return {
      exitCode := exitCode run.value
      errorOutput := logText (LogFilter.chosen filterText?)
        (run.log ++ [lastEvent options.out run.value]) }

end Program

end Scenario
