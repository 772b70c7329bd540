import SessionHandoff.CommandLine.Commands
import SessionHandoff.Machine.Standard

/-!
# Runs on the standard machine

What a run sees of the files of the standard machine, and the program with sessions started there.
-/

set_option autoImplicit false

namespace SessionHandoff.CommandLine

/-- The files of every machine with others beside them, as a process sees them that works in a
folder. -/
def standardFiles (others : List (Place × Node)) (folder : Place) : FileTree :=
  ⟨Machine.nodes ++ others, folder, 0o022⟩

/-- The program on the standard machine. -/
def runStandard (arguments : List String) (host : Host) : Finished × Host :=
  run Machine.standard arguments host

end SessionHandoff.CommandLine
