import SessionHandoff.Processes.Start
import SessionHandoff.Tools.Work

/-!
# Handing over

Tools that prepare a process and then become the program that their operands name. What they
prepared is what the program starts with.
-/

set_option autoImplicit false

namespace SessionHandoff.Tools

/-- The code of a tool that could not become a program. -/
def failureCode (e : Errno) : Nat :=
  if e = .noEntry then 127 else 126

/-- Become the program that the process is named after. Where that fails, say why and end; a hint is
for the case that there is no such program. -/
def handOver {α : Type} (programs : ProgramTable) (p : Process) (hint? : Option String := none) :
    ToolM α := do
  flush
  match ← onWorld fun _ => becomeNamed programs p (searchPathOf p.environment) p.name with
  | .ok status =>
    modify fun s => { s with spoilt := false, unheard := false }
    throw status
  | .error e =>
    complain ((← inQuotes p.name) ++ ": " ++ e.description)
    if let some hint := hint? then
      if e = .noEntry then complain hint
    leave (failureCode e)

end SessionHandoff.Tools
