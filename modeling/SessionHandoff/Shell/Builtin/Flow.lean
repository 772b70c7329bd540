import SessionHandoff.Shell.Builtin.Call

/-!
# Control

The builtin commands that decide what is run next: leaving loops, functions and the shell, running
texts and files as scripts, and telling what a name stands for.
-/

set_option autoImplicit false

namespace SessionHandoff.Shell

/-! ## Leaving -/

/-- Do nothing, with a status. -/
def nothing (status : Nat) : Builtin := fun _ => return status

/-- Leave so many loops, or go on with the next pass of the last of them. -/
def leaveLoops (skip : Skip) : Builtin := fun call => do
  let n ← match call.args with
    | [] => pure 1
    | a :: _ =>
      let n ← number a
      if n = 0 then fail ("Illegal number: " ++ a)
      pure n
  let s ← get
  if s.loops ≠ 0 then set { s with skip, skipCount := min n s.loops }
  return 0

/-- Leave the function or the script that is run. -/
def leaveFunction : Builtin := fun call => do
  match call.args with
  | [] =>
    modify fun s => { s with skip := .function false }
    return (← get).status
  | a :: _ =>
    let n ← number a
    modify fun s => { s with skip := .function true }
    return n

/-- Leave the shell. -/
def leaveShell : Builtin := fun call => do
  match call.args with
  | [] => throw .exit
  | a :: _ =>
    let n ← number a
    modify fun s => { s with
      status := n
      statusBefore? := s.statusBefore?.map fun _ => n }
    throw .exit

/-! ## Scripts -/

/-- Run arguments as a script. -/
def runArguments (run : Runner) : Builtin := fun call =>
  if call.args.isEmpty then return 0
  else runText run (" ".intercalate call.args) { tested := call.tested }

/-- The path of a script that is named without a slash. -/
def scriptOnPath? (s : State) (name : String) : Option String :=
  (candidates s.searchPath name).find? fun path =>
    match (s.process.files s.world).find (Octets.toText path) with
    | .ok (.file content mode) => (Node.file content mode).permits readMask
    | _ => false

/-- Run a file as a script. -/
def runFile (run : Runner) : Builtin := fun call => do
  match (← call.options).rest with
  | [] => return 0
  | name :: _ =>
    let s ← get
    let path ← (do
      if name.contains '/' then return name
      match if name.isEmpty then none else scriptOnPath? s name with
      | some path => return path
      | none => fail (name ++ ": not found"))
    let i ← openScript path
    let s ← get
    let (r, world) := s.world.readAt i (s.world.available i)
    set { s with world, command? := some path }
    let text := match r with
      | .ok bytes => Octets.ofBytes bytes
      | .error _ => []
    let status ← runText run (String.ofList text)
    modify fun s => { s with
      skip := match s.skip with
        | .function _ => .nothing
        | skip => skip }
    return status

/-! ## Names -/

/-- Say what a name stands for. Returns the status. -/
def describe (name : String) (searchPath? : Option String) (inWords : Bool) : ShellM Nat := do
  let s ← get
  let told (words : String) : ShellM Nat := do
    emit (if inWords then name ++ words ++ "\n" else name ++ "\n")
    return 0
  if (Token.keywords.lookup name).isSome then return ← told " is a shell keyword"
  if let some value := s.aliases.lookup name then
    emit (if inWords then name ++ " is an alias for " ++ value ++ "\n"
      else "alias " ++ name ++ "=" ++ singleQuoted value ++ "\n")
    return 0
  let missing : ShellM Nat := do
    if inWords then emit (name ++ ": not found\n")
    return 127
  match ← find name true searchPath? with
  | .function _ => told " is a shell function"
  | .builtin =>
    told (if isSpecial name then " is a special shell builtin" else " is a shell builtin")
  | .missing _ => missing
  | .program paths noted =>
    let path := paths.headD name
    if !(s.process.files s.world).hasEntry (Octets.toText path) then missing
    else
      emit (if inWords then
          name ++ " is " ++ (if noted then "a tracked alias for " else "") ++ path ++ "\n"
        else path ++ "\n")
      return 0

/-- Say what names stand for. -/
def describeAll : Builtin := fun call => do
  let mut status := 0
  for name in call.args do
    status := status ||| (← describe name none true)
  return status

/-- The search path that finds the programs of the system. -/
def systemPath : String :=
  "/usr/local/sbin:/usr/local/bin:/usr/sbin:/usr/bin:/sbin:/bin"

/-- Say what the first name stands for, on request. -/
def describeFirst : Builtin := fun call => do
  let options ← call.options "pvV"
  match options.rest with
  | name :: _ =>
    let searchPath? := if options.has 'p' then some systemPath else none
    if options.has 'V' || options.has 'v' then describe name searchPath? (options.has 'V')
    else return 0
  | [] => return 0

/-- Write the programs that were found before, forget them, or find programs. -/
def noteNames : Builtin := fun call => do
  let options ← call.options "r"
  let s ← get
  if options.has 'r' then
    set { s with hashed := [] }
    return 0
  if options.rest.isEmpty then
    for h in s.hashed.mergeSort fun a b => hashRow a.name ≤ hashRow b.name do
      emit (h.path ++ (if h.stale then "*" else "") ++ "\n")
    return 0
  let mut status := 0
  for name in options.rest do
    forgetProgram name
    match ← find name with
    | .missing e =>
      complain (name ++ ": " ++ startReason e)
      status := 1
    | _ => pure ()
  return status

/-- Write the times of the shell and its processes, which take none. -/
def showTimes : Builtin := fun _ => do
  emit "0m0.000000s 0m0.000000s\n0m0.000000s 0m0.000000s\n"
  return 0

end SessionHandoff.Shell
