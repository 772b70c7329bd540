import SessionHandoff.Shell.Start
import SessionHandoff.Tools.Concatenation
import SessionHandoff.Tools.Counting
import SessionHandoff.Tools.Echo
import SessionHandoff.Tools.Environment.Tool
import SessionHandoff.Tools.Niceness
import SessionHandoff.Tools.Searching.Tool
import SessionHandoff.Tools.Sorting.Tool
import SessionHandoff.Tools.Waiting

/-!
# The programs of the machine

The programs that every machine has, by the places of their files. Some of them start programs
themselves; a chain of programs that start one another has an end.
-/

set_option autoImplicit false

namespace SessionHandoff.Machine

/-- The folder that holds the programs. -/
def programFolder : Place := ["usr", "bin"]

/-- The programs that start no other programs. -/
def tools : List (String × Program) :=
  [("cat", Tools.Concatenation.program), ("echo", Tools.Echo.program),
    ("false", Tools.Waiting.idle "false" 1), ("grep", Tools.Searching.program),
    ("sleep", Tools.Waiting.program), ("sort", Tools.Sorting.program),
    ("true", Tools.Waiting.idle "true" 0), ("wc", Tools.Counting.program)]

/-- The programs that start others. -/
def starters (programs : ProgramTable) : List (String × Program) :=
  [("sh", Shell.program programs), ("dash", Shell.program programs),
    ("env", Tools.Environment.program programs), ("nice", Tools.Niceness.program programs)]

/-- A table of programs by their names. -/
def tableOf (programs : List (String × Program)) : ProgramTable := fun place =>
  if place.dropLast = programFolder then
    place.getLast?.bind fun name => programs.lookup name
  else none

/-- The programs of a machine on which programs start one another at most so deep. -/
def programTable : Nat → ProgramTable
  | 0 => tableOf tools
  | depth + 1 => tableOf (starters (programTable depth) ++ tools)

/-- The names of all programs. -/
def programNames : List String :=
  (starters (programTable 0) ++ tools).map (·.1)

end SessionHandoff.Machine
