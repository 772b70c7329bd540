import SessionHandoff.Shell.Builtin.Flow
import SessionHandoff.Shell.Builtin.Printing
import SessionHandoff.Shell.Builtin.Reading
import SessionHandoff.Shell.Builtin.Settings
import SessionHandoff.Shell.Builtin.Signals
import SessionHandoff.Shell.Builtin.Surroundings
import SessionHandoff.Shell.Builtin.Testing

/-!
# Simple commands

A simple command consists of assignments, words and redirections. Its words are expanded first, then
its redirections are followed, then its variables are assigned; what its name stands for is run at
last. Variables that are assigned for a command are local to it, unless the command is special.
-/

set_option autoImplicit false

namespace SessionHandoff.Shell

/-- Become the program that the arguments name, if there are any. -/
def become : Builtin := fun call => do
  match call.args with
  | [] => return 0
  | name :: args =>
    let s ← get
    becomeProgram name args (if name.contains '/' then [name] else candidates s.searchPath name)

/-- The builtin commands. -/
def builtins (run : Runner) : List (String × Builtin) :=
  [(".", runFile run), (":", nothing 0), ("[", test), ("alias", setAliases), ("bg", takeUpJob),
    ("break", leaveLoops .break_), ("cd", changeFolder), ("chdir", changeFolder),
    ("command", describeFirst), ("continue", leaveLoops .continue_), ("echo", echo),
    ("eval", runArguments run), ("exec", become), ("exit", leaveShell), ("export", exportVariables),
    ("false", nothing 1), ("fg", takeUpJob), ("getopts", getopts), ("hash", noteNames),
    ("jobs", showJobs), ("kill", kill), ("local", declareLocal), ("printf", printf),
    ("pwd", showFolder), ("read", readLine), ("readonly", protect), ("return", leaveFunction),
    ("set", setBuiltin), ("shift", shift), ("test", test), ("times", showTimes), ("trap", trap),
    ("true", nothing 0), ("type", describeAll), ("ulimit", ulimit), ("umask", umask),
    ("unalias", unalias), ("unset", unset), ("wait", waitForJobs)]

/-! ## Words -/

/-- Words that are being expanded: the fields so far, and the words that are left. -/
structure Expanding where
  fields : List String := []
  left : List Word
  /-- The place of the name of the command among the fields. -/
  position : Nat := 0
  /-- Whether the name may be that of a function. -/
  functions : Bool := true
  searchPath? : Option String := none
  /-- Whether the first builtin command is special. -/
  special? : Option Bool := none
  assigning : Bool := false
deriving Inhabited

/-- Expand words until there is a field at a place. Returns it. -/
def Expanding.fieldAt? (run : Runner) (place : Nat) : Nat → Expanding →
    ShellM (Option String × Expanding)
  | 0, e => return (e.fields[place]?, e)
  | fuel + 1, e =>
    match e.fields[place]?, e.left with
    | none, w :: left => do
      let fields ← expandFields run w
      fieldAt? run place fuel { e with fields := e.fields ++ fields, left }
    | found?, _ => return (found?, e)

/-- Pass over the options of `command`. Nothing is returned if it is to run itself. -/
def Expanding.passOptions? (run : Runner) : Nat → Expanding → Nat → ShellM (Option Expanding)
  | 0, _, _ => return none
  | fuel + 1, e, place => do
    let (field?, e) ← e.fieldAt? run place (e.left.length + 1)
    match field? with
    | none => return none
    | some field =>
      let reached : Expanding := { e with position := place, functions := false }
      match field.toList with
      | ['-', '-'] =>
        let (next?, e) ← e.fieldAt? run (place + 1) (e.left.length + 1)
        return next?.map fun _ =>
          { e with position := place + 1, functions := false }
      | '-' :: c :: letters =>
        if (c :: letters).all (· == 'p') then
          passOptions? run fuel { e with searchPath? := some systemPath } (place + 1)
        else return none
      | _ => return some reached

/-- Expand words until it is known what takes the others. -/
def Expanding.reach (run : Runner) : Nat → Expanding → ShellM Expanding
  | 0, e => return e
  | fuel + 1, e => do
    let (name?, e) ← e.fieldAt? run e.position (e.left.length + 1)
    match name? with
    | none => return e
    | some name =>
      let isFunction := e.functions && ((← get).functions.lookup name).isSome
      if isFunction || !isBuiltin name then return { e with assigning := false }
      let e := { e with
        assigning := assigningNames.contains name
        special? := some (e.special?.getD (isSpecial name)) }
      if name ≠ "command" then return e
      match ← e.passOptions? run (fuel + e.left.length + e.fields.length) (e.position + 1) with
      | some next => reach run fuel next
      | none =>
        let (_, e) ← e.fieldAt? run (e.position + 1) (e.left.length + 1)
        return e

/-- Expand all words of a command. -/
def expandWords (run : Runner) (words : List Word) : ShellM Expanding := do
  let e ← Expanding.reach run (words.length + 8) { left := words }
  let mut fields := []
  for w in e.left do
    if e.assigning && isAssignment w.leadingChars then
      fields := fields ++ [← expandText run Style.assignment w]
    else fields := fields ++ (← expandFields run w)
  return { e with fields := e.fields ++ fields, left := [] }

/-! ## Tracing -/

/-- Write a command that is about to be run. -/
def traceCommand (run : Runner) (assignments fields : List String) : ShellM Unit := do
  let s ← get
  if !s.options.contains 'x' || s.tracing then return
  set { s with tracing := true }
  let start ← match readPrompt ((s.value? "PS4").getD "") s.aliases with
    | some w => expandText run Style.document w
    | none => pure ""
  modify fun s => { s with tracing := false }
  let _ ← writeTo (← errorBefore) (start ++ " ".intercalate (assignments ++ fields) ++ "\n")

/-! ## Running -/

/-- End the calls of functions but the oldest ones. -/
def endLocalsTo (depth : Nat) : ShellM Unit := do
  for _ in List.range ((← get).locals.length - depth) do
    endLocals

/-- Call a builtin command. What it has to write is written when it ends, in whatever way. -/
def callBuiltin (builtin : Builtin) (call : Call) : ShellM Unit := do
  let before := (← get).command?
  modify fun s => { s with command? := some call.name }
  let restore : ShellM Unit := modify fun s => { s with command? := before }
  try
    let status ← builtin call
    let written ← flush
    if !written then complain (call.name ++ ": I/O error")
    modify fun s => { s with status := if written then status else status ||| 1 }
    restore
  catch j =>
    let _ ← flush
    restore
    throw j

/-- How many calls of functions may be made inside one another. -/
def maxCalls : Nat := 1000

/-- Call a function. -/
def callFunction (run : Runner) (body : Command) (args : List String) (tested : Bool) :
    ShellM Unit := do
  let before ← get
  if maxCalls ≤ before.calls then
    fail ("Maximum function recursion depth (" ++ Text.decimalString maxCalls ++ ") reached")
  let restore : ShellM Unit := modify fun s => { s with
    calls := before.calls
    positional := before.positional
    optionsRead := before.optionsRead
    loops := before.loops
    skip := match s.skip with
      | .function _ => .nothing
      | skip => skip }
  set { before with positional := args, optionsRead := {}, loops := 0, calls := before.calls + 1 }
  try
    let _ ← run body { tested }
    restore
  catch j =>
    restore
    throw j

/-- Whether no action is set for a signal. -/
def State.hasNoActions (s : State) : Bool :=
  s.traps.all fun t => t.2.isEmpty

/-- Run what a name stands for. Returns the status. -/
def runFound (run : Runner) (manner : Manner) (special : Bool) (name : String)
    (args : List String) : Found → ShellM Nat
  | .missing e => do
    complain (name ++ ": " ++ startReason e)
    return 127
  | .function body => do
    callFunction run body args manner.tested
    return (← get).status
  | .builtin => do
    let depth := ((← get).kept.length, (← get).locals.length)
    try
      if let some builtin := (builtins run).lookup name then
        callBuiltin builtin { name, args, tested := manner.tested }
    catch
      | .error =>
        if special then throw .error
        endRedirectionsTo depth.1
        endLocalsTo depth.2
      | j => throw j
    return (← get).status
  | .program paths _ => do
    if manner.last && (← get).hasNoActions then becomeProgram name args paths
    runProgram name args paths

/-- Assign variables for a command. Returns the assignments as they were made. -/
def assignFor (run : Runner) (isLocal exported : Bool) (assignments : List Word) :
    ShellM (List String) :=
  assignments.mapM fun w => do
    let text ← expandText run Style.assignment w
    if isLocal then makeLocal text true else assignText text exported
    return text

/-- Run a simple command. -/
def runSimple (run : Runner) (manner : Manner) (assignments words : List Word)
    (redirections : List Redirection) : ShellM Nat := do
  modify fun s => { s with substitutionStatus := 0 }
  let e ← expandWords run words
  let args := e.fields.drop e.position
  let special := e.special? = some true
  let isLocal := !e.fields.isEmpty && !special
  let isExec := args.head? = some "exec" && e.special?.isSome
  let s ← get
  let depth := (s.kept.length, s.locals.length)
  if isLocal then set { s with locals := [] :: s.locals }
  let leads ← expandLeads run redirections
  let status ← (do
    if !(← redirectFor run leads) then
      if special then failWith failureStatus
      return failureStatus
    let texts ← assignFor run isLocal (isExec && 1 < args.length) assignments
    traceCommand run texts e.fields
    match args with
    | [] => return (← get).substitutionStatus
    | name :: args =>
      runFound run manner special name args (← find name e.functions e.searchPath?))
  endRedirections isExec
  endRedirectionsTo depth.1
  endLocalsTo depth.2
  return status

end SessionHandoff.Shell
