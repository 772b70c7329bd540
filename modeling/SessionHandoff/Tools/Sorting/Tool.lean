import SessionHandoff.Tools.NameList
import SessionHandoff.Tools.Sorting.Explanation

/-!
# Sorting lines

`sort` writes the lines of its files in order, or merges files whose lines are in order, or checks
whether they are. Every line that is written ends with a line end, also the last one of a file that
has none.
-/

set_option autoImplicit false

namespace SessionHandoff.Tools.Sorting

/-! ## Files -/

/-- The lines of a text. -/
def linesOf (lineEnd : Char) (text : List Char) : List (List Char) :=
  let lines := text.splitOn lineEnd
  if lines.getLast? = some [] then lines.dropLast else lines

/-- Complain about a file and end. -/
def refuseFile {α : Type} (what name : String) (e : Errno) : ToolM α := do
  fail (what ++ ": " ++ (← forShell name) ++ ": " ++ e.description)

/-- Read a file. -/
def readNamed (checks : Bool) (name : String) : ToolM (List Char) := do
  if name = "-" then
    match ← readInput with
    | .ok text => return text
    | .error .isFolder => refuseFile "read failed" name .isFolder
    | .error e => refuseFile (if checks then "read failed" else "stat failed") name e
  else
    match ← openInput name with
    | .error e => refuseFile "open failed" name e
    | .ok i =>
      match ← readOpen i with
      | .ok text => return text
      | .error e => refuseFile "read failed" name e

/-- Make sure that a file can be opened. -/
def checkInput (name : String) : ToolM Unit := do
  if name = "-" then return
  let s ← get
  match (s.process.files s.world).find (Octets.toText name) with
  | .error e => refuseFile "cannot read" name (Process.errnoOf e)
  | .ok node => if !node.permits readMask then refuseFile "cannot read" name .accessDenied

/-- The names of the files. -/
def Request.allNames (r : Request) : ToolM (List String) := do
  match r.list?, r.names.reverse with
  | some _, operand :: _ => refuseOperand operand
  | some list, [] =>
    match ← readNameList list with
    | .error (.notOpened e) => refuseFile "open failed" list e
    | .error (.notRead _) => fail ("cannot read file names from " ++ (← inShellQuotes list))
    | .ok names =>
      if names.names.isEmpty then fail ("no input from " ++ (← inShellQuotes list))
      for (name, i) in names.names.zipIdx do
        if let some fault ← nameFault? r.list? name (i + 1) then fail fault
      return names.names
  | none, [] => return ["-"]
  | none, names => return names

/-- Open the output instead of the standard output. -/
def openOutput (name : String) : ToolM Unit := do
  match ← onWorld fun p => p.openPath name { writable := true, creates := true } with
  | .error e => refuseFile "open failed" name e
  | .ok i => modify fun s => { s with process := s.process.withDescriptor 1 i }

/-- Empty the file that is written. -/
def emptyOutput : ToolM Unit := do
  let s ← get
  match (s.process.at? 1).bind fun i => s.world.opened[i]? with
  | some ⟨.file place, _, _, _, _⟩ =>
    match s.world.nodes.lookup place with
    | some (.file _ mode) =>
      set { s with world := { s.world with
        nodes := FileTree.setEntry place (.file [] (writtenMode mode)) s.world.nodes } }
    | _ => return
  | _ => return

/-- What decides an order by chance: the first octets of a file if one is named. -/
def Request.chance (r : Request) : ToolM Chance := do
  let usual : Chance :=
    { closed := !Characters.Charset.arePlain
        (Characters.Charset.habitsHeld (← get).process.environment "LC_COLLATE") }
  match r.source? with
  | some name =>
    if !r.allKeys.any (·.style.random) then return usual
    match ← openInput name with
    | .error e => refuseFile "open failed" name e
    | .ok i =>
      match ← onWorld fun _ w => w.readAt i usual.seed.length with
      | .error e => fail ((← inQuotes name) ++ ": read error: " ++ e.description)
      | .ok seed =>
        if seed.length < usual.seed.length then fail ((← inQuotes name) ++ ": end of file")
        return { usual with seed }
  | none => return usual

/-- How much of the output waits before it is written. -/
def bufferSize : Nat := 4096

/-- Write a text. -/
def Request.write (r : Request) (text : List Char) : ToolM Unit := do
  if text.isEmpty then return
  put text
  match ← writeWaiting with
  | .ok () => return
  | .error e =>
    let fits := text.length < bufferSize
    complain ((if fits then "fflush failed" else "write failed") ++ ": " ++
      (← forShell (r.output?.getD "standard output")) ++ ": " ++ e.description)
    let isOpen := r.output?.isSome || ((← get).process.at? 1).isSome
    fail (if isOpen || !fits then "write error" else "write error: " ++ e.description)

/-- Check whether the lines of a file are in order, and tell the first that is not if that is asked
for. -/
def Request.check (r : Request) (chance : Chance) (lineEnd : Char) (names : List String)
    (tells : Bool) : ToolM Nat := do
  let letter := if tells then "c" else "C"
  if let second :: _ := names.drop 1 then
    fail ("extra operand " ++ (← inShellQuotes second) ++ " not allowed with -" ++ letter)
  if r.output?.isSome then contradict (letter ++ "o")
  let name := names.headD "-"
  match r.firstFault? chance 1 (linesOf lineEnd (← readNamed true name)) with
  | none => return 0
  | some (n, line) =>
    if tells then
      say ((← get).process.name ++ ": " ++ name ++ ":" ++ Text.decimalString n ++
        ": disorder: " ++ String.ofList line ++ String.singleton lineEnd)
    return 1

/-- The octets of memory that a worker takes. -/
def workerSize : Nat := 256

/-- The tool. -/
def program : Program := tool 2 do
  let r ← readArguments
  let names ← r.allNames
  match (r.allKeys.map Key.style).find? Style.isContradictory with
  | some s =>
    contradict { s with reverse := false, blanksBefore := false, blanksBeforeEnd := false }.letters
  | none => pure ()
  if r.explains then
    match r.check?, r.output? with
    | some tells, _ => contradict ((if tells then "c" else "C") ++ " --debug")
    | none, some _ => contradict "o --debug"
    | none, none => r.remark
  let chance ← r.chance
  let lineEnd := if r.zeros then Char.ofNat 0 else '\n'
  match r.check? with
  | some tells => r.check chance lineEnd names tells
  | none =>
    names.forM checkInput
    if let some name := r.output? then openOutput name
    let texts ← names.mapM (readNamed false)
    let files := texts.map (linesOf lineEnd)
    if r.output?.isSome then emptyOutput
    if !r.merge && 1 < files.flatten.length && Amount.memory < r.workers * workerSize then
      fail "memory exhausted"
    let lines := if r.merge then r.merged chance files else r.sorted chance files.flatten
    let charset := (← get).charset
    r.write (lines.flatMap fun line =>
      if r.explains then r.explained charset line else line ++ [lineEnd])
    return 0

end SessionHandoff.Tools.Sorting
