import SessionHandoff.Processes.Start
import SessionHandoff.Shell.CommandReading

/-!
# The state of a shell

What a shell knows while it runs a script: its process and the world around it, its variables,
functions and options, the traps that were set, and the jobs that nobody has waited for yet.

A shell acts in `ShellM`. An act may end the shell, or fail so that the command it belongs to fails;
leaving loops and functions early is part of the state, because the commands in between look at it.
-/

set_option autoImplicit false

namespace SessionHandoff.Shell

/-- A variable. One without a value may still be marked for export. -/
structure Variable where
  name : String
  value? : Option String := none
  exported : Bool := false
  readOnly : Bool := false
  /-- Whether the shell set it up itself; such a variable is never forgotten. -/
  fixed : Bool := false
deriving DecidableEq, Repr, Inhabited

/-- What is left early. -/
inductive Skip where
  | nothing
  | break_
  | continue_
  /-- A function, with a status of its own or with the one that there is. -/
  | function (hasStatus : Bool)
deriving DecidableEq, Repr, Inhabited

/-- How a job stands: not run yet, or ended at some time. -/
inductive JobStage where
  | waiting (run : World → ExitStatus × World)
  | ended (status : ExitStatus) (time : Nat)

/-- A job in the background. -/
structure Job where
  /-- The place of the job in the list of jobs, from one on. -/
  place : Nat
  /-- The numbers of its processes, the last one first. -/
  processes : List Nat
  /-- When the job was started. -/
  start : Nat
  stage : JobStage
  /-- Whether somebody has waited for it. -/
  waited : Bool := false

/-- What a function made local, as it was before. -/
inductive Saved where
  | variable (name : String) (before : Option Variable)
  | options (letters : List Char)
deriving DecidableEq, Repr

/-- A program that was found before. -/
structure Hashed where
  name : String
  path : String
  /-- Whether the folder was changed since. -/
  stale : Bool := false
deriving Repr, Inhabited

/-- How far the options of the arguments were read. -/
structure OptionsRead where
  /-- The number of the argument that is next. -/
  index : Nat := 1
  /-- How much was read of the argument before it, if some of it is left. -/
  offset? : Option Nat := none
deriving Repr, Inhabited

/-- The state of a shell. -/
structure State where
  world : World
  process : Process
  programs : ProgramTable
  /-- The name by which the shell calls itself. -/
  zero : String
  positional : List String := []
  vars : List Variable := []
  /-- The functions and their bodies. -/
  functions : List (String × Command) := []
  aliases : List (String × String) := []
  /-- The letters of the options that are set. -/
  options : List Char := []
  /-- The letters of the options that the arguments of the shell have not set yet. They are written
  as if they were set. -/
  undecided : List Char := []
  status : Nat := 0
  /-- The status of the last command substitution. -/
  substitutionStatus : Nat := 0
  /-- The number of the shell that all subshells came from. -/
  rootNumber : Nat
  /-- The path of the folder that is worked in, as the shell came there. -/
  folder : String := ""
  latestJob? : Option Nat := none
  jobs : List Job := []
  /-- The actions for signals, and for the end of the shell under zero. -/
  traps : List (Nat × String) := []
  /-- The signals that the shell was started to ignore, whatever actions are set for them. -/
  deaf : List Nat := []
  /-- The signals that arrived and have actions. -/
  arrived : List Nat := []
  /-- The status before an action, while one is run. -/
  statusBefore? : Option Nat := none
  skip : Skip := .nothing
  skipCount : Nat := 0
  loops : Nat := 0
  line : Nat := 1
  /-- The builtin command that is run. -/
  command? : Option String := none
  /-- The variables that are local, by call. -/
  locals : List (List Saved) := []
  documents : List (Nat × Word) := []
  nextDocument : Nat := 0
  hashed : List Hashed := []
  optionsRead : OptionsRead := {}
  /-- Whether the shell is a part of another shell. -/
  isPart : Bool := false
  /-- Whether a line of tracing is being made up. -/
  tracing : Bool := false
  /-- What a builtin command has written so far, the latest piece first. -/
  pending : List String := []
  /-- What was kept of the numbers that redirections changed, for each command that is run: the
  number under which it is kept, or that nothing was open. -/
  kept : List (List (Nat × Option Nat)) := []
  /-- The line that the reader of the script has reached. -/
  readLine : Nat := 1
  /-- How much work may still be done: a pass through a loop is one piece of it. -/
  effort : Nat := 300000
  /-- The signal that ends a process that makes more of them, if not one of the limits of time. -/
  overdue? : Option Nat := none
  /-- How many calls of functions are being made. -/
  calls : Nat := 0

/-- Why an act did not come to its end. -/
inductive Jump where
  /-- The shell is left on request; an action for a signal then leaves the status from before. -/
  | exit
  /-- The shell is left at its end, with the status it has. -/
  | finished
  /-- The command has failed. -/
  | error
  /-- The process of the shell has ended. -/
  | ended (status : ExitStatus)
deriving DecidableEq, Repr, Inhabited

/-- An act of a shell. -/
abbrev ShellM := ExceptT Jump (StateM State)

/-- What runs commands: whether failing is being tested, and whether the shell ends with the
command, are given besides. -/
structure Manner where
  tested : Bool := false
  last : Bool := false
deriving DecidableEq, Repr, Inhabited

/-- A function that runs commands. -/
abbrev Runner := Command → Manner → ShellM Nat

/-! ## Work -/

/-- The signal that ends a process that takes too long. -/
def State.overdue (s : State) : Nat :=
  let limit := s.process.limits.bound .cpuTime
  s.overdue?.getD (if limit.soft < limit.hard then Signal.timeLimit else Signal.certainEnd)

/-- Do so much work. A process that works too much is ended. -/
def spend (work : Nat) : ShellM Unit := do
  let s ← get
  if s.effort < work then throw (.ended (.signal s.overdue))
  set { s with effort := s.effort - work }

/-- The work for a text: so much is done with one piece of work. -/
def workOf (length : Nat) : Nat :=
  length / 64

/-! ## Messages -/

/-- Whether a signal that is neither harmless nor ignored nor blocked ends the process. -/
def State.endsAt (s : State) (signal : Nat) : Bool :=
  !(s.deaf.contains signal || s.process.ignored.contains signal) && s.process.takes signal &&
    (s.traps.lookup signal).isNone

/-- Write bytes under a number, given as an octet text. A file that grows too large ends the
process, unless it expects the signal. -/
def writeTo (fd : Nat) (text : String) : ShellM (Except Errno Unit) := do
  spend (workOf text.length)
  let s ← get
  let (r, world) := (s.process.write fd (Octets.bytesOf text)).run s.world
  set { s with world }
  match r with
  | .error .fileTooLarge =>
    if s.endsAt Signal.sizeLimit then throw (.ended (.signal Signal.sizeLimit))
    return r
  | _ => return r

/-- Say something on the standard error. -/
def say (text : String) : ShellM Unit := do
  let _ ← writeTo 2 text

/-- A message with the name of the shell, the line, and the builtin command. -/
def complain (message : String) : ShellM Unit := do
  let s ← get
  let command := match s.command? with
    | some c => c ++ ": "
    | none => ""
  say (s.zero ++ ": " ++ Text.decimalString s.line ++ ": " ++ command ++ message ++ "\n")

/-- The status of a command that failed. -/
def failureStatus : Nat := 2

/-- Fail with a status. -/
def failWith {α : Type} (status : Nat) : ShellM α := do
  modify fun s => { s with status }
  throw .error

/-- Fail with a message. -/
def fail {α : Type} (message : String) : ShellM α := do
  complain message
  failWith failureStatus

/-- Whether an option is set. -/
def hasOption (letter : Char) : ShellM Bool := do
  return (← get).options.contains letter

/-! ## Numbers -/

/-- The least and the greatest integer of the shell. -/
def integerRange : Int × Int := (-9223372036854775808, 9223372036854775807)

/-- An integer brought into the range by wrapping around. -/
def wrap (n : Int) : Int :=
  (n - integerRange.1) % 18446744073709551616 + integerRange.1

/-- Whether a character is a blank of numbers. -/
def isBlankChar (c : Char) : Bool :=
  c == ' ' || (9 ≤ c.toNat && c.toNat ≤ 13)

/-- The value of a digit in some base. -/
def digitIn? (base : Nat) (c : Char) : Option Nat :=
  let v :=
    if c.isDigit then c.toNat - 48
    else if 'a' ≤ c && c ≤ 'z' then c.toNat - 87
    else if 'A' ≤ c && c ≤ 'Z' then c.toNat - 55
    else 99
  if v < base then some v else none

/-- A sign, a base and digits that a text starts with. Without a base, a leading zero means eight,
and one before an x sixteen. -/
def readInteger (base? : Option Nat) (text : List Char) : Option Int × List Char :=
  let start := text.dropWhile isBlankChar
  let (negative, digits) : Bool × List Char := match start with
    | '-' :: rest => (true, rest)
    | '+' :: rest => (false, rest)
    | rest => (false, rest)
  let isHex (c : Char) : Bool := (digitIn? 16 c).isSome
  let (base, digits) : Nat × List Char := match base?, digits with
    | some b, ds => (b, ds)
    | none, '0' :: x :: d :: rest =>
      if (x = 'x' || x = 'X') && isHex d then (16, d :: rest) else (8, '0' :: x :: d :: rest)
    | none, '0' :: rest => (8, '0' :: rest)
    | none, ds => (10, ds)
  let used := digits.takeWhile fun c => (digitIn? base c).isSome
  if used.isEmpty then (none, text)
  else
    let n : Int := used.foldl (fun n c => n * base + ((digitIn? base c).getD 0 : Nat)) 0
    (some (if negative then -n else n), digits.drop used.length)

/-- An integer brought into the range by stopping at its ends. -/
def clamp (n : Int) : Int :=
  max integerRange.1 (min integerRange.2 n)

/-- The integer that a whole text spells, blanks around it allowed. -/
def integerOf? (base? : Option Nat) (s : String) : Option Int :=
  match readInteger base? s.toList with
  | (some n, rest) => if (rest.dropWhile isBlankChar).isEmpty && clamp n = n then some n else none
  | (none, rest) =>
    if base?.isNone && (rest.dropWhile isBlankChar).isEmpty then some 0 else none

/-- The integer that a text spells; any other text is an error. -/
def integer (base? : Option Nat) (s : String) : ShellM Int := do
  match integerOf? base? s with
  | some n => return n
  | none => fail ("Illegal number: " ++ s)

/-- The natural number of 31 bits that a text spells; any other text is an error. -/
def number (s : String) : ShellM Nat := do
  match integerOf? (some 10) s with
  | some (.ofNat n) => if n < 2147483648 then return n else fail ("Illegal number: " ++ s)
  | _ => fail ("Illegal number: " ++ s)

/-! ## Variables -/

/-- The number of rows of variables. -/
def rowCount : Nat := 39

/-- The row in which a shell keeps a variable. -/
def row (name : String) : Nat :=
  let bytes := name.toList.map Char.toNat
  bytes.foldl (· + ·) (16 * bytes.headD 0) % rowCount

namespace State

/-- The variable with a name. -/
def lookup? (s : State) (name : String) : Option Variable :=
  s.vars.find? fun v => v.name == name

/-- The value of a variable. -/
def value? (s : State) (name : String) : Option String :=
  (s.lookup? name).bind Variable.value?

/-- The variables with one changed or, where there is none of its name, added. -/
def putVariable (v : Variable) : List Variable → List Variable
  | [] => [v]
  | w :: rest => if w.name == v.name then v :: rest else w :: putVariable v rest

/-- The state with a variable changed or added. -/
def withVariable (s : State) (v : Variable) : State :=
  { s with vars := putVariable v s.vars }

/-- The state without a variable. -/
def withoutVariable (s : State) (name : String) : State :=
  { s with vars := s.vars.filter fun v => v.name != name }

/-- The environment for a command, row by row. -/
def environment (s : State) : List String :=
  let exported := s.vars.filter fun v => v.exported && v.value?.isSome
  (exported.mergeSort fun a b => row a.name ≤ row b.name).map fun v =>
    v.name ++ "=" ++ v.value?.getD ""

/-- The path on which programs are looked for. -/
def searchPath (s : State) : String :=
  (s.value? "PATH").getD ""

end State

/-- How long the value of a variable may become before the shell runs out of room. -/
def maxValue : Nat := 1048576

/-- How many positional arguments there may be before the shell runs out of room. -/
def maxPositional : Nat := 131072

/-- Check that a length stays within the room that there is for it. A shell without room ends. -/
def fitLength (length most : Nat) : ShellM Unit := do
  if most < length then throw (.ended (.signal Signal.segmentation))

/-- Set a variable to a value, marked for export on request. -/
def assign (name value : String) (exported : Bool := false) : ShellM Unit := do
  fitLength value.length maxValue
  spend (workOf value.length)
  let s ← get
  let old := (s.lookup? name).getD { name }
  if old.readOnly then fail (name ++ ": is read only")
  let exported := old.exported || exported || s.options.contains 'a'
  set (s.withVariable { old with value? := some value, exported })
  if name = "OPTIND" then
    let n ← number value
    modify fun s => { s with optionsRead := ⟨max n 1, none⟩ }
  if name = "PATH" then modify fun s => { s with hashed := [] }

/-- Set a variable that has to have a name. -/
def assignNamed (name value : String) (exported : Bool := false) : ShellM Unit := do
  if isName name.toList then assign name value exported
  else fail (name ++ ": bad variable name")

/-- Forget a variable. -/
def forget (name : String) : ShellM Unit := do
  let s ← get
  if !isName name.toList then fail (name ++ ": bad variable name")
  match s.lookup? name with
  | none => return
  | some v =>
    if v.readOnly then fail (name ++ ": is read only")
    if v.fixed then set (s.withVariable { v with value? := none })
    else set (s.withoutVariable name)
    if name = "PATH" then modify fun s => { s with hashed := [] }

/-- The name and the value of an assignment. -/
def splitAssignment (text : String) : String × Option String :=
  let chars := text.toList
  let name := chars.takeWhile (· != '=')
  (String.ofList name,
    if name.length < chars.length then some (String.ofList (chars.drop (name.length + 1)))
    else none)

/-- Do what a text of the form of an assignment says. -/
def assignText (text : String) (exported : Bool := false) : ShellM Unit := do
  let (name, value) := splitAssignment text
  assignNamed name (value.getD "") exported

/-- Make a variable local to the call that is run, which sets it if it has the form of an
assignment. -/
def makeLocal (text : String) (exported : Bool := false) : ShellM Unit := do
  let (name, value?) := splitAssignment text
  let s ← get
  match s.locals with
  | [] => return
  | frame :: rest =>
    if text = "-" then
      set { s with locals := (.options s.options :: frame) :: rest }
      return
    set { s with locals := (.variable name (s.lookup? name) :: frame) :: rest }
    match value? with
    | some value => assignNamed name value exported
    | none =>
      if (s.lookup? name).isNone then
        if isName name.toList then modify fun s => s.withVariable { name, exported }
        else fail (name ++ ": bad variable name")
    modify fun s =>
      match s.lookup? name with
      | some v => s.withVariable { v with fixed := true }
      | none => s

/-- Put the variables back that the latest call made local. -/
def endLocals : ShellM Unit :=
  modify fun s =>
    let s := if (s.locals.headD []).any fun saved => saved matches .variable "PATH" _ then
      { s with hashed := [] } else s
    match s.locals with
    | [] => s
    | frame :: rest =>
      frame.foldl (fun s saved =>
        match saved with
        | .options letters => { s with options := letters }
        | .variable _ (some v) => s.withVariable v
        | .variable name none => s.withoutVariable name) { s with locals := rest }

/-! ## Texts -/

/-- A text between single quotes, which stand between double quotes themselves. -/
def singleQuoted (s : String) : String :=
  String.ofList (go (s.length + 1) s.toList)
where
  go : Nat → List Char → List Char
    | 0, _ => []
    | n + 1, text =>
      let before := text.takeWhile (· != '\'')
      let rest := text.drop before.length
      let quotes := rest.takeWhile (· == '\'')
      let after := rest.drop quotes.length
      ('\'' :: before) ++ ['\''] ++
        (if quotes.isEmpty then []
          else if after.isEmpty then ('"' :: quotes) ++ ['"']
          else ('"' :: quotes) ++ ('"' :: go n after))

end SessionHandoff.Shell
