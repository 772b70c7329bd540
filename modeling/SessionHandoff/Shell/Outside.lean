import SessionHandoff.Shell.Lookup

/-!
# Running programs

A shell runs a program in a process of its own and waits for its end, or becomes the program itself.
The program gets the exported variables, and everything that is open under a number below ten.
-/

set_option autoImplicit false

namespace SessionHandoff.Shell

/-- The process of a program that the shell with this state starts or becomes. -/
def State.starting (s : State) (name : String) (args : List String) : Process :=
  { s.process with
    name
    args
    environment := s.environment
    descriptors := s.process.descriptors.filter fun d => d.1 < leastKept }

/-- Become the program at the first path that starts one. -/
def becomeAtFirst (programs : ProgramTable) (p : Process) (outcome : Errno) :
    List String → WorldM (Except Errno ExitStatus)
  | [] => return .error outcome
  | path :: rest => do
    match ← becomeOrRead programs p path with
    | .ok status => return .ok status
    | .error .noEntry | .error .notFolder => becomeAtFirst programs p outcome rest
    | .error e => becomeAtFirst programs p e rest

/-- Run a program as a process. Where it cannot be started, why is said, and the status that stands
for it is the error. -/
def runProcess (p : Process) (paths : List String) : ShellM (Except Nat ExitStatus) := do
  let s ← get
  let (r, world) := (becomeAtFirst s.programs p .noEntry paths).run s.world
  set { s with world }
  match r with
  | .ok status => return .ok status
  | .error e =>
    complain (p.name ++ ": " ++ startReason e)
    return .error (startStatus e)

/-- Run a program and wait for its end. From then on no signals are blocked. -/
def runProgram (name : String) (args paths : List String) : ShellM Nat := do
  let number ← nextNumber
  settleJobs
  modify fun s => { s with process := { s.process with blocked := [] } }
  let p := (← get).starting name args
  match ← runProcess { p with number, ancestors := p.number :: p.ancestors } paths with
  | .error status =>
    noteEnd
    return status
  | .ok status =>
    reportEnd status
    noteEnd
    return status.number

/-- Become a program. The shell ends with it; where it cannot be started, the shell ends as well. -/
def becomeProgram {α : Type} (name : String) (args paths : List String) : ShellM α := do
  match ← runProcess ((← get).starting name args) paths with
  | .ok status => throw (.ended status)
  | .error status =>
    modify fun s => { s with status }
    throw .finished

end SessionHandoff.Shell
