import Scenario.Program

/-!
# The executable

The program on the system that it is started on.  Files are reached through the
standard library, which tells modification times but no change times, so the
former stand in for the latter.  Nor does it tell the time zone, so change times
are told in universal time.
-/

namespace Scenario

namespace Native

/-- The number of an error.  Some operations report it with its sign
changed. -/
def errorNumber (code : UInt32) : Nat :=
  code.toInt32.toInt.natAbs

/-- The numbered error with a given number, if it is one that is known. -/
def osError? (number : Nat) : Option OsError :=
  [.noSuchFile, .busy, .crossDevice, .notDirectory, .isDirectory,
    .invalidArgument, .noSpace, .nameTooLong, .notEmpty, .tooManyLinks].find?
    fun error => error.code == number

/-- The number and the description of an error of the system, if it has
them. -/
def details? : IO.Error → Option (UInt32 × String)
  | .alreadyExists _ code details => some (code, details)
  | .otherError code details => some (code, details)
  | .resourceBusy code details => some (code, details)
  | .resourceVanished code details => some (code, details)
  | .unsupportedOperation code details => some (code, details)
  | .hardwareFault code details => some (code, details)
  | .unsatisfiedConstraints code details => some (code, details)
  | .illegalOperation code details => some (code, details)
  | .protocolError code details => some (code, details)
  | .timeExpired code details => some (code, details)
  | .interrupted _ code details => some (code, details)
  | .noFileOrDirectory _ code details => some (code, details)
  | .invalidArgument _ code details => some (code, details)
  | .permissionDenied _ code details => some (code, details)
  | .resourceExhausted _ code details => some (code, details)
  | .inappropriateType _ code details => some (code, details)
  | .noSuchThing _ code details => some (code, details)
  | .unexpectedEof => none
  | .userError _ => none

/-- The error of an operation on files that the system refused. -/
def ioError (error : IO.Error) : IoError :=
  match details? error with
  | none => .other (toString error)
  | some (code, details) =>
    let number := errorNumber code
    match osError? number with
    | some known => .os known
    | none => .other s!"{details} (os error {number})"

/-- Perform an operation on files that have the given paths. -/
def attempt
    {α : Type}
    (paths : List String)
    (operation : IO α) :
    IO (Except IoError α) := do
  if paths.any fun path => '\x00' ∈ path.toList then
    return .error .zeroInPath
  try
    return .ok (← operation)
  catch error =>
    return .error (ioError error)

end Native

open Native

instance : FileAccess IO where
  create path := attempt [path] do
    let _ ← IO.FS.Handle.mk path .append
  remove path := attempt [path] (IO.FS.removeFile path)
  rename path newPath := attempt [path, newPath] (IO.FS.rename path newPath)
  status path := attempt [path] do
    let metadata ← (← IO.FS.realPath path).metadata
    return {
      isDirectory := metadata.type == .dir
      changed := metadata.modified.sec }
  replace path text := attempt [path] do
    let handle ← IO.FS.Handle.mk path .write
    handle.putStr text
    handle.flush
  contents path := do
    match ← attempt [path] (IO.FS.readBinFile path) with
    | .error error => return .error error
    | .ok bytes =>
      match String.fromUTF8? bytes with
      | some text => return .ok text
      | none => return .error .notText

end Scenario

/-- Run the program. -/
def main (arguments : List String) : IO UInt32 := do
  let filterText? ← IO.getEnv "RUST_LOG"
  let completion ← Scenario.Program.run arguments filterText?
  IO.print completion.output
  IO.eprint completion.errorOutput
  return completion.exitCode.toUInt32
