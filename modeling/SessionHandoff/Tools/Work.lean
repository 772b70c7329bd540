import SessionHandoff.Processes.Opening
import SessionHandoff.Tools.Help.Basic
import SessionHandoff.Tools.Options
import SessionHandoff.Tools.Quoted

/-!
# Tools at work

A tool reads its options, reads files or its standard input, and writes. What it writes on the
standard output waits until it has something to complain about or ends; a failure to write is a
complaint of its own.
-/

set_option autoImplicit false

namespace SessionHandoff.Tools

/-- A tool at work. -/
structure Work where
  process : Process
  world : World
  /-- What waits to be written on the standard output, the latest first. -/
  waiting : List (List Char) := []
  /-- Whether something could not be written when it was time. -/
  spoilt : Bool := false
  /-- Whether something could not be written on the standard error. -/
  unheard : Bool := false
  /-- The code in which a failure ends the tool. -/
  failure : Nat := 1
  /-- The code in which an output that fails at the end ends the tool, if that is another one. -/
  broken? : Option Nat := none
  /-- How octets make up characters, by the environment. -/
  charset : Characters.Charset := .octets

/-- The work of a tool. It may end before its end. -/
abbrev ToolM := ExceptT ExitStatus (StateM Work)

/-- Change the world. -/
def onWorld {α : Type} (act : Process → WorldM α) : ToolM α := do
  let s ← get
  let (a, world) := (act s.process).run s.world
  set { s with world }
  return a

/-- End the work. -/
def leave {α : Type} (code : Nat) : ToolM α :=
  throw (.code code)

/-- Let a text wait to be written. -/
def put (text : List Char) : ToolM Unit :=
  modify fun s => { s with waiting := text :: s.waiting }

/-- Let a string wait to be written. -/
def putString (text : String) : ToolM Unit :=
  put text.toList

/-- Write what waits. A file that grows too large ends the tool, unless it ignores the signal. -/
def writeWaiting : ToolM (Except Errno Unit) := do
  let s ← get
  set { s with waiting := [] }
  let r ← onWorld fun p => p.write 1 (Octets.toBytes s.waiting.reverse.flatten)
  match r with
  | .error .fileTooLarge =>
    if !s.process.isEndedBy Signal.sizeLimit then return r
    throw (.signal Signal.sizeLimit)
  | _ => return r

/-- Write what waits, and note a failure. -/
def flush : ToolM Unit := do
  if (← get).waiting.any (!·.isEmpty) then
    match ← writeWaiting with
    | .ok () => pure ()
    | .error _ => modify fun s => { s with spoilt := true }

/-- Say something on the standard error. -/
def say (text : String) : ToolM Unit := do
  flush
  match ← onWorld fun p => p.write 2 (Octets.bytesOf text) with
  | .ok () => return
  | .error _ => modify fun s => { s with unheard := true }

/-- Complain in the name of the tool. -/
def complain (text : String) : ToolM Unit := do
  say ((← get).process.name ++ ": " ++ text ++ "\n")

/-- Complain and end. -/
def fail {α : Type} (text : String) : ToolM α := do
  complain text
  leave (← get).failure

/-- Point to the help and end with a code. -/
def suggestHelp {α : Type} (code : Nat) : ToolM α := do
  say ("Try '" ++ (← get).process.name ++ " --help' for more information.\n")
  leave code

/-- Complain about how the tool was called. -/
def misuse {α : Type} (text : String) : ToolM α := do
  complain text
  suggestHelp (← get).failure

/-- Write what a tool says about itself and end, if that is what an option asks for. -/
def Help.About.answer (about : Help.About) (key : String) : ToolM Unit := do
  match key with
  | "help" =>
    putString (about.text (← get).process.name)
    leave 0
  | "version" =>
    putString (Help.coreVersion about.tool)
    leave 0
  | _ => return

/-- A variable of the environment. -/
def setting? (name : String) : ToolM (Option String) := do
  let start := (name ++ "=").toList
  return ((← get).process.environment.find? fun e => start.isPrefixOf e.toList).map fun e =>
    String.ofList (e.toList.drop start.length)

/-- A text in quotes. -/
def inQuotes (text : String) : ToolM String :=
  return quoted (← get).charset text

/-- A name as a shell reads it. -/
def forShell (name : String) : ToolM String :=
  return shellQuoted (← get).charset name

/-- A name in quotes as a shell reads it. -/
def inShellQuotes (name : String) : ToolM String :=
  return shellQuotedAlways (← get).charset name

/-- Read the arguments of a tool. Each option changes what the tool is asked for. -/
def readArguments {α : Type} (about : Help.About) (table : OptionTable) (asked : α)
    (option : α → String → String → ToolM α) : ToolM (α × List String) := do
  let strict := (← setting? "POSIXLY_CORRECT").isSome
  let given := table.explained.read strict (← get).process.args
  let mut asked := asked
  for o in given.options do
    match o with
    | .option key value =>
      about.answer key
      asked ← option asked key value
    | .wrong reason => misuse reason
  return (asked, given.operands)

/-- The meaning of a word that an option takes, cut short or not. Any other word ends the tool. -/
def choose {α : Type} (option : String) (choices : List (String × α)) (word : String) :
    ToolM α := do
  let refuse (how : String) : ToolM α := do
    complain (how ++ " argument " ++ (← inQuotes word) ++ " for " ++ (← inQuotes option))
    let lines ← choices.mapM fun c => return "  - " ++ (← inQuotes c.1) ++ "\n"
    say ("Valid arguments are:\n" ++ String.join lines)
    suggestHelp 1
  match choices.lookup word with
  | some a => return a
  | none =>
    match choices.filter fun c => word.toList.isPrefixOf c.1.toList with
    | [] => refuse "invalid"
    | [c] => return c.2
    | _ => refuse "ambiguous"

/-! ## Input -/

/-- Read all that is left of the standard input. -/
def readInput : ToolM (Except Errno (List Char)) := do
  return (← onWorld fun p => p.readAll 0).map Octets.ofBytes

/-- Open a file for reading. -/
def openInput (name : String) : ToolM (Except Errno Nat) :=
  onWorld fun p => p.openPath name .reading

/-- Read all that is left at something open. -/
def readOpen (i : Nat) : ToolM (Except Errno (List Char)) := do
  let r ← onWorld fun _ w => w.readAt i (w.available i)
  return r.map Octets.ofBytes

/-! ## The end -/

/-- Write what still waits when the tool ends. A failure is complained about, with its reason if it
happens now or the output is not even open, and changes the status. So does what could not be said
on the standard error. -/
def close (status : ExitStatus) : StateM Work ExitStatus := do
  let s ← get
  let broken := s.broken?.getD s.failure
  let closed : ExitStatus := match status with
    | .code _ => if s.unheard then .code broken else status
    | _ => status
  let complaint (reason : String) : StateM Work ExitStatus := do
    let (_, world) := (s.process.say 2
      (s.process.name ++ ": write error" ++ reason ++ "\n")).run (← get).world
    modify fun s => { s with world }
    return .code broken
  if s.waiting.any (!·.isEmpty) then
    match (← writeWaiting.run) with
    | .ok (.error e) => complaint (": " ++ e.description)
    | .error status => return status
    | _ => if s.spoilt then complaint "" else return closed
  else if s.spoilt then
    complaint (if (s.process.at? 1).isNone then ": " ++ Errno.badDescriptor.description else "")
  else return closed

/-- A tool whose failures end it with a code. -/
def tool (failure : Nat) (act : ToolM Nat) : Program := fun process world =>
  let charset := Characters.Charset.ofEnvironment process.environment
  let (result, s) := act.run.run { process, world, failure, charset }
  let (status, s) := (close (match result with
    | .ok code => .code code
    | .error status => status)).run s
  (status, s.world)

end SessionHandoff.Tools
