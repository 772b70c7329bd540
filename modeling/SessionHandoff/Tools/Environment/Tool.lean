import SessionHandoff.Tools.Environment.Signals
import SessionHandoff.Tools.Environment.Splitting
import SessionHandoff.Tools.HandOver
import SessionHandoff.Tools.Help.Environment

/-!
# Programs in another environment

`env` changes its environment and becomes a program; without a program it writes the environment. An
option may hold further arguments in one text, which is split into them by rules of its own.
-/

set_option autoImplicit false

namespace SessionHandoff.Tools.Environment

/-- What is said about a text that may have been meant to be split. -/
def splitHint : String := "use -[v]S to pass options in shebang lines"

/-- Read the arguments: what is asked for, and the operands. Arguments may hold others; the depth
bounds how often. -/
def readRequest : Nat → Request → List String → ToolM (Request × List String)
  | 0, r, args => return (r, args)
  | fuel + 1, r, args => do
    match options.explained.step args with
    | .done operands => return (r, operands)
    | .operand arg rest => return (r, arg :: rest)
    | .options given rest =>
      let mut r := r
      let mut rest := rest
      for o in given do
        if let .option key _ := o then (⟨"env", Help.environment⟩ : Help.About).answer key
        match o with
        | .option "C" value => r := { r with folder? := some value }
        | .option "i" _ => r := { r with empty := true }
        | .option "u" value => r := { r with removed := r.removed ++ [value] }
        | .option "v" _ => r := { r with talks := true }
        | .option "0" _ => r := { r with zeros := true }
        | .option "S" value => rest := (← splitValue r value) ++ rest
        | .option "default" value =>
          let signals ← signalsOf value
          r := (r.askAction false signals).askMask false signals
        | .option "default all" _ => r := (r.askAction false none).askMask false none
        | .option "ignore" value => r := r.askAction true (← signalsOf value)
        | .option "ignore all" _ => r := r.askAction true none
        | .option "block" value => r := r.askMask true (← signalsOf value)
        | .option "block all" _ => r := r.askMask true none
        | .option "list" _ => r := { r with listsSignals := true }
        | .option key _ =>
          complain ("invalid option -- '" ++ key ++ "'")
          misuse splitHint
        | .wrong reason => misuse reason
      readRequest fuel r rest

/-- How many steps reading arguments takes at most. -/
def maxSteps : Nat := 100000

/-- The environment with a variable set. A new one comes last. -/
def withEntry (entry : String) : List String → List String
  | [] => [entry]
  | e :: rest =>
    let name (s : String) : List Char := s.toList.takeWhile (· != '=')
    if name e = name entry then entry :: rest else e :: withEntry entry rest

/-- The environment without a variable. -/
def without (name : String) (environment : List String) : List String :=
  environment.filter fun e => !(name ++ "=").toList.isPrefixOf e.toList

/-- The environment that is asked for, before variables are set. -/
def startOf (r : Request) (environment : List String) : ToolM (List String) := do
  if r.empty then
    tell r "cleaning environ"
    return []
  let mut environment := environment
  for name in r.removed do
    tell r ("unset:    " ++ name)
    if name.isEmpty || name.contains '=' then
      fail ("cannot unset " ++ (← inQuotes name) ++ ": " ++ Errno.invalidArgument.description)
    environment := without name environment
  return environment

/-- Change the folder of a process. -/
def enter (p : Process) (path : String) : ToolM Process := do
  let files := p.files (← get).world
  let there := (files.find (Octets.toText path)).bind fun
    | .folder => files.resolve (Octets.toText path)
    | _ => .error (.system .notFolder)
  match there with
  | .ok target => return { p with folder := target.place }
  | .error e =>
    fail ("cannot change directory to " ++ (← inShellQuotes path) ++ ": " ++
      (Process.errnoOf e).description)

/-- The tool, on a machine with the given programs. -/
def program (programs : ProgramTable) : Program := tool 125 do
  let p := (← get).process
  let (r, operands) ← readRequest maxSteps {} p.args
  let (r, operands) := match operands with
    | "-" :: rest => ({ r with empty := true }, rest)
    | _ => (r, operands)
  let mut environment ← startOf r p.environment
  let entries := operands.takeWhile fun o => o.contains '='
  for entry in entries do
    tell r ("setenv:   " ++ entry)
    environment := withEntry entry environment
  match operands.drop entries.length with
  | [] =>
    if r.folder?.isSome then misuse "must specify command with --chdir (-C)"
    for e in environment do
      putString e
      put [if r.zeros then Char.ofNat 0 else '\n']
    return 0
  | name :: args =>
    if r.zeros then misuse "cannot specify --null (-0) with command"
    let p ← withActions r { p with environment }
    let p ← withMask r p
    if r.listsSignals then listSignals p
    let p ← match r.folder? with
      | some path =>
        tell r ("chdir:    " ++ (← inShellQuotes path))
        enter p path
      | none => pure p
    tell r ("executing: " ++ name)
    for (arg, i) in (name :: args).zipIdx do
      tell r ("   arg[" ++ Text.decimalString i ++ "]= " ++ (← inQuotes arg))
    handOver programs { p with name, args }
      (if name.toList.any isSeparator then some splitHint else none)

end SessionHandoff.Tools.Environment
