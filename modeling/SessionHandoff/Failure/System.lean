import SessionHandoff.Text.Digits

/-!
# Failures of the system

The error numbers of the system that a session can meet, and the failures of reading and writing.
Each has two wordings: the description with its number, and the symbol with its description.
-/

set_option autoImplicit false

namespace SessionHandoff

/-- An error number of the system. -/
inductive Errno where
  | notPermitted
  | noEntry
  | noProcess
  | noDevice
  | argumentsTooLong
  | notExecutable
  | badDescriptor
  | noChild
  | outOfMemory
  | accessDenied
  | alreadyExists
  | notFolder
  | isFolder
  | invalidArgument
  | tooManyFiles
  | fileTooLarge
  | noSpace
  | brokenPipe
  | nameTooLong
deriving DecidableEq, Repr

namespace Errno

/-- The number. -/
def number : Errno → Nat
  | .notPermitted => 1
  | .noEntry => 2
  | .noProcess => 3
  | .noDevice => 6
  | .argumentsTooLong => 7
  | .notExecutable => 8
  | .badDescriptor => 9
  | .noChild => 10
  | .outOfMemory => 12
  | .accessDenied => 13
  | .alreadyExists => 17
  | .notFolder => 20
  | .isFolder => 21
  | .invalidArgument => 22
  | .tooManyFiles => 24
  | .fileTooLarge => 27
  | .noSpace => 28
  | .brokenPipe => 32
  | .nameTooLong => 36

/-- The symbol. -/
def symbol : Errno → String
  | .notPermitted => "EPERM"
  | .noEntry => "ENOENT"
  | .noProcess => "ESRCH"
  | .noDevice => "ENXIO"
  | .argumentsTooLong => "E2BIG"
  | .notExecutable => "ENOEXEC"
  | .badDescriptor => "EBADF"
  | .noChild => "ECHILD"
  | .outOfMemory => "ENOMEM"
  | .accessDenied => "EACCES"
  | .alreadyExists => "EEXIST"
  | .notFolder => "ENOTDIR"
  | .isFolder => "EISDIR"
  | .invalidArgument => "EINVAL"
  | .tooManyFiles => "EMFILE"
  | .fileTooLarge => "EFBIG"
  | .noSpace => "ENOSPC"
  | .brokenPipe => "EPIPE"
  | .nameTooLong => "ENAMETOOLONG"

/-- The description. -/
def description : Errno → String
  | .notPermitted => "Operation not permitted"
  | .noEntry => "No such file or directory"
  | .noProcess => "No such process"
  | .noDevice => "No such device or address"
  | .argumentsTooLong => "Argument list too long"
  | .notExecutable => "Exec format error"
  | .badDescriptor => "Bad file descriptor"
  | .noChild => "No child processes"
  | .outOfMemory => "Cannot allocate memory"
  | .accessDenied => "Permission denied"
  | .alreadyExists => "File exists"
  | .notFolder => "Not a directory"
  | .isFolder => "Is a directory"
  | .invalidArgument => "Invalid argument"
  | .tooManyFiles => "Too many open files"
  | .fileTooLarge => "File too large"
  | .noSpace => "No space left on device"
  | .brokenPipe => "Broken pipe"
  | .nameTooLong => "File name too long"

/-- The wording with the number. -/
def withNumber (e : Errno) : String :=
  e.description ++ " (os error " ++ Text.decimalString e.number ++ ")"

/-- The wording with the symbol. -/
def withSymbol (e : Errno) : String :=
  e.symbol ++ ": " ++ e.description

end Errno

/-- A failure of reading, writing or starting something. -/
inductive IoError where
  | system (e : Errno)
  /-- A file that should hold a text holds other bytes. -/
  | notText
  /-- A path holds the character NUL. -/
  | nulInPath
  /-- A program, argument or variable holds the character NUL. -/
  | nulInCommand
  /-- A channel took no byte of what was left. -/
  | nothingTaken
  /-- A channel failed in its own words. -/
  | channel (text : String)
deriving DecidableEq, Repr

/-- The wording of a failure. -/
def IoError.message : IoError → String
  | .system e => e.withNumber
  | .notText => "stream did not contain valid UTF-8"
  | .nulInPath => "file name contained an unexpected NUL byte"
  | .nulInCommand => "nul byte found in provided data"
  | .nothingTaken => "failed to write whole buffer"
  | .channel text => text

end SessionHandoff
