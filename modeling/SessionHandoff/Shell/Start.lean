import SessionHandoff.Shell.Evaluation

/-!
# The shell

The shell as a program: it reads its options, takes over the environment, and runs the script that
it is given as an argument, as a file, or on its standard input. A script on the standard input is
read in blocks, and what it runs reads after the last block.
-/

set_option autoImplicit false

namespace SessionHandoff.Shell

/-! ## Before the script -/

/-- The variables that every shell has, in the order in which it sets them up. -/
def initialVariables : List (String × String) :=
  [("IFS", " \t\n"), ("PATH", systemPath), ("PS1", "# "), ("PS2", "> "), ("PS4", "+ "),
    ("OPTIND", "1")]

/-- The variable that an entry of the environment is, if its name is one of a variable. -/
def importEntry? (entry : String) : Option (String × String) :=
  match splitAssignment entry with
  | (name, some value) => if isName name.toList then some (name, value) else none
  | _ => none

/-- Take over an entry of the environment. -/
def importEntry (vars : List Variable) (entry : String) : List Variable :=
  match importEntry? entry with
  | none => vars
  | some (name, value) =>
    let old := (vars.find? fun v => v.name == name).getD { name }
    State.putVariable { old with value? := some value, exported := true } vars

/-- A variable gets a value. -/
def giveValue (name value : String) (vars : List Variable) : List Variable :=
  let old := (vars.find? fun v => v.name == name).getD { name }
  State.putVariable { old with value? := some value } vars

/-- The path of the folder in which a shell starts: the one that its environment tells if that is
right. -/
def startFolder (p : Process) (w : World) (told? : Option String) : String :=
  let own := "/" ++ "/".intercalate (p.folder.map Octets.ofText)
  match told? with
  | some path =>
    let files := p.files w
    let leadsThere := match files.find (Octets.toText path), files.resolve (Octets.toText path) with
      | .ok .folder, .ok target => target.place == p.folder
      | _, _ => false
    if path.startsWith "/" && leadsThere then path else own
  | none => own

/-- The state in which a shell starts. -/
def State.start (programs : ProgramTable) (p : Process) (w : World) : State :=
  let fixed := initialVariables.map fun e =>
    { name := e.1, value? := some e.2, fixed := true : Variable }
  let vars := p.environment.foldl importEntry fixed
  let vars := giveValue "IFS" " \t\n" (giveValue "OPTIND" "1" vars)
  let vars := giveValue "PPID" (Text.decimalString (p.ancestors.headD 1)) vars
  let told? := ((vars.find? fun v => v.name == "PWD").bind Variable.value?)
  let folder := startFolder p w told?
  let vars := State.putVariable
    { name := "PWD", value? := some folder, exported := true } vars
  { world := w, process := p, programs, zero := p.name, vars, rootNumber := p.number, folder
    deaf := p.ignored, line := 0 }

/-! ## Options -/

/-- What the arguments of a shell say. -/
structure Invocation where
  /-- Whether the script is an argument. -/
  scriptGiven : Bool := false
  rest : List String

/-- Read the options of a shell, of so many arguments at most. -/
def readInvocation : Nat → Bool → List String → ShellM Invocation
  | 0, scriptGiven, args => return { scriptGiven, rest := args }
  | fuel + 1, scriptGiven, args => do
    match args with
    | [] => return { scriptGiven, rest := [] }
    | first :: rest =>
      match first.toList with
      | ['-'] | ['-', '-'] => return { scriptGiven, rest }
      | '-' :: letters =>
        let given := letters.contains 'c'
        let rest ← setLetters true (letters.filter fun c => c != 'c' && c != 'l') rest
        readInvocation fuel (scriptGiven || given) rest
      | '+' :: letters =>
        let given := letters.contains 'c'
        let rest ← setLetters false (letters.filter fun c => c != 'c' && c != 'l') rest
        readInvocation fuel (scriptGiven || given) rest
      | _ => return { scriptGiven, rest := args }

/-! ## Scripts from files -/

/-- How many bytes of a script are read at a time. -/
def blockSize : Nat := 8192

/-- Read a block of a script. Nothing is left at the end. -/
def readBlock (i : Nat) : ShellM (List Char) := do
  let s ← get
  let (r, world) := s.world.readAt i blockSize
  set { s with world }
  match r with
  | .ok bytes => return (Octets.ofBytes bytes).filter (· != Char.ofNat 0)
  | .error _ => return []

/-- The text that a reader has left, outside of aliases. -/
def Reading.leftText (r : Reading) : List Char :=
  (r.layers.getLast?.map Layer.text).getD []

/-- A reader with more text after its own. -/
def Reading.extended (r : Reading) (text : List Char) : Reading :=
  match r.layers.getLast? with
  | some l => { r with layers := r.layers.dropLast ++ [{ l with text := l.text ++ text }] }
  | none => { r with layers := [⟨text, none, false⟩] }

/-- Say something if an option is set. -/
def sayIf (letter : Char) (text : ShellM String) : ShellM Unit := do
  if ← hasOption letter then say (← text)

/-- The text that asks for a command. -/
def promptText (run : Runner) : ShellM String := do
  let s ← get
  match readPrompt ((s.value? "PS1").getD "") s.aliases with
  | some w => expandText run Style.document w
  | none => return ""

/-- Run the lines of a script that is open, so many lines and blocks at most. More of it is read
whenever a line meets the end of what was read. -/
def runOpen (run : Runner) (i : Nat) : Nat → Bool → Reading → Nat → ShellM Nat
  | 0, _, _, status => return status
  | fuel + 1, asks, reading, status => do
    if asks then sayIf 'i' (promptText run)
    let s ← get
    let start := { reading with
      aliases := s.aliases, nextDocument := s.nextDocument, documents := [] }
    let (line, after) := nextLine start
    let block ← if after.metEnd then readBlock i else pure []
    if !block.isEmpty then runOpen run i fuel false (reading.extended block) status
    else
      let before := start.leftText
      let shown := before.take (before.length - after.leftText.length)
      sayIf 'v' (return String.ofList shown)
      modify fun s => { s with
        documents := after.documents ++ s.documents
        nextDocument := after.nextDocument
        readLine := after.line }
      match line with
      | .finished =>
        sayIf 'i' (return "\n")
        return status
      | .wrong e =>
        modify fun s => { s with line := e.line }
        fail ("Syntax error: " ++ e.message)
      | .command none _ => runOpen run i fuel true after status
      | .command (some c) _ =>
        let status ← run c {}
        if (← get).skip ≠ .nothing then return status
        runOpen run i fuel true after status

/-- How many lines and blocks of a script are run at most. -/
def maxLines : Nat := 10000000

/-- Run the script that is open. -/
def runInput (run : Runner) (i : Nat) : ShellM Nat := do
  let status ← runOpen run i maxLines true { layers := [⟨[], none, false⟩] } 0
  modify fun s => { s with skip := .nothing }
  return status

/-! ## The shell -/

/-- Run what the arguments of a shell say. -/
def runInvocation (run : Runner) : ShellM Nat := do
  let args := (← get).process.args
  modify fun s => { s with undecided := optionNames.map (·.2) }
  let invocation ← readInvocation (args.length + 1) false args
  modify fun s => { s with undecided := [] }
  if ← hasOption 'i' then setOption 'm' true
  if invocation.rest.isEmpty then
    if invocation.scriptGiven then fail "-c requires an argument"
    setOption 's' true
  let standard : ShellM Nat := do
    match (← get).process.at? 0 with
    | some i => runInput run i
    | none => return 0
  match invocation.rest with
  | [] =>
    dropJobControl
    standard
  | first :: rest =>
    if invocation.scriptGiven then
      match rest with
      | zero :: positional => modify fun s => { s with zero, positional }
      | [] => pure ()
      dropJobControl
      let status ← runText run first
      if ← hasOption 's' then standard else return status
    else if ← hasOption 's' then
      modify fun s => { s with positional := invocation.rest }
      dropJobControl
      standard
    else
      let i ← openScript first
      modify fun s => { s with
        zero := first
        positional := rest
        process := s.process.withDescriptor (s.process.freeDescriptor leastKept) i }
      dropJobControl
      runInput run i

/-- How deep commands may be nested while they are run. -/
def maxDepth : Nat := 20000

/-- The shell as a program, on a machine with the given programs. -/
def program (programs : ProgramTable) : Program := fun p w =>
  let run := Runner.nested maxDepth
  let act : ShellM Nat := do
    let status ← runInvocation run
    flush *> pure status
  let (result, s) := act.run.run (State.start programs p w)
  let (status, s) := (finish run result).run s
  (status, s.world)

end SessionHandoff.Shell
