/-!
# Errors of the operating system

An operation on files fails with a numbered error of the operating system, or
for one of the few reasons that have no number.
-/

namespace Scenario

/-- The numbered errors that operations on files meet. -/
inductive OsError where
  | noSuchFile
  | busy
  | crossDevice
  | notDirectory
  | isDirectory
  | invalidArgument
  | noSpace
  | nameTooLong
  | notEmpty
  | tooManyLinks
deriving DecidableEq, Repr

namespace OsError

/-- The number of the error. -/
def code : OsError → Nat
  | noSuchFile => 2
  | busy => 16
  | crossDevice => 18
  | notDirectory => 20
  | isDirectory => 21
  | invalidArgument => 22
  | noSpace => 28
  | nameTooLong => 36
  | notEmpty => 39
  | tooManyLinks => 40

/-- The description of the error. -/
def description : OsError → String
  | noSuchFile => "No such file or directory"
  | busy => "Device or resource busy"
  | crossDevice => "Invalid cross-device link"
  | notDirectory => "Not a directory"
  | isDirectory => "Is a directory"
  | invalidArgument => "Invalid argument"
  | noSpace => "No space left on device"
  | nameTooLong => "File name too long"
  | notEmpty => "Directory not empty"
  | tooManyLinks => "Too many levels of symbolic links"

end OsError

/-- Why an operation on files failed. -/
inductive IoError where
  | os (error : OsError)
  /-- A path holds a zero character, which no path may. -/
  | zeroInPath
  /-- The contents of a file are no text. -/
  | notText
  /-- A change time lies beyond the calendar. -/
  | changeTimeOutOfRange
  /-- Any other reason, in its own words. -/
  | other (description : String)
deriving DecidableEq, Repr

namespace IoError

/-- The text of the error. -/
def message : IoError → String
  | os error => s!"{error.description} (os error {error.code})"
  | zeroInPath => "file name contained an unexpected NUL byte"
  | notText => "stream did not contain valid UTF-8"
  | changeTimeOutOfRange => "change time out of range"
  | other description => description

/-- The error says that something does not exist. -/
def isNotFound (error : IoError) : Bool :=
  error == .os .noSuchFile

end IoError

end Scenario
