import SessionHandoff.Shell.Simple

/-!
# Running commands

What commands do, one step deep: the function that runs the commands inside a command is a parameter
of `step`. Each command leaves a status. Where the shell ends at failures, a simple command, a
pipeline or a part that fails ends it, unless the failure is being tested.

`Runner.nested` runs commands nested so deep at most. A process that nests deeper runs out of
memory.
-/

set_option autoImplicit false

namespace SessionHandoff.Shell

/-- Note the status of a command. -/
def noteStatus (status : Nat) : ShellM Nat := do
  modify fun s => { s with status }
  return status

/-- The line of a command. -/
def reachLine (line : Nat) : ShellM Unit :=
  modify fun s => { s with line }

/-! ## Parts in the background -/

/-- Start a job of so many processes. What it does to the world is computed later. -/
def startJob (processes : List Nat) (run : World → ExitStatus × World) : ShellM Unit := do
  spend (processWork + (← get).jobs.length / 4)
  modify fun s =>
    let taken := s.jobs.map Job.place
    let place := ((List.range (taken.length + 1)).map (· + 1)).find?
      (fun n => !taken.contains n) |>.getD 1
    let job : Job := { place, processes, start := s.world.clock, stage := .waiting run }
    { s with jobs := job :: s.jobs, latestJob? := processes.head? }

/-- The signals that no job in the background takes from the keyboard. -/
def keyboardSignals : List Nat := [2, 3]

/-- The state from which a part in the background starts: its standard input is empty. -/
def backgroundState : ShellM State := do
  let s ← get
  let (i, world) := s.world.opening { endpoint := .sink, readable := true }
  set { s with world }
  return { s with
    effort := s.effort / 2
    deaf := keyboardSignals ++ s.deaf
    process := { s.process.withDescriptor 0 i with
      ignored := keyboardSignals ++ s.process.ignored } }

/-! ## Pipelines -/

/-- One command of a pipeline, with the number of its process and the ends of its pipes. -/
structure Stage where
  body : Command
  number : Nat
  descriptors : List (Nat × Nat)

/-- Find the program of a simple command before the command has a process of its own, so that it is
noted. -/
def prepare : Command → ShellM Unit
  | .simple _ _ (word :: _) _ =>
    match Word.plain? word with
    | some name => if isName name then discard (find (String.ofList name)) else return
    | none => return
  | _ => return

/-- Make the pipes and the processes of a pipeline. The standard input of the first command is
given. -/
def makeStages : List Command → List (Nat × Nat) → ShellM (List Stage)
  | [], _ => return []
  | [c], input => do
    prepare c
    return [⟨c, ← nextNumber, input⟩]
  | c :: rest, input => do
    prepare c
    let (reader, writer) ← openPipe (if input.any (·.1 == 0) then 1 else 0)
    let number ← nextNumber
    return ⟨c, number, input ++ [(1, writer)]⟩ :: (← makeStages rest [(0, reader)])

/-- How much work a command of a pipeline may do that writes to another one. -/
def maxWriterEffort : Nat := 150000

/-- What running a stage does to the world. A command that goes on writing finds its pipe closed in
the end. -/
def Stage.run (runner : Runner) (s : State) (tested isLast : Bool) (stage : Stage) (w : World) :
    ExitStatus × Nat × World :=
  let s := if isLast then s
    else { s with effort := min maxWriterEffort s.effort, overdue? := some Signal.brokenPipe }
  let (status, left, w) := runPart runner s stage.number (do
    modify fun s => { s with process := withDescriptors stage.descriptors s.process }
    runner stage.body { tested, last := true }) w
  (status, if isLast then left else s.effort, w)

/-- Run a pipeline and wait for its commands. -/
def runStages (runner : Runner) (tested : Bool) : List Stage → ShellM Nat
  | [] => return 0
  | stage :: rest => do
    let s ← get
    let (status, effort, world) := stage.run runner s tested rest.isEmpty s.world
    set { s with world, effort }
    reportEnd status
    if rest.isEmpty then
      noteEnd
      return status.number
    runStages runner tested rest

/-- What a pipeline in the background does to the world. -/
def runStagesFrom (runner : Runner) (s : State) (tested : Bool) :
    List Stage → World → ExitStatus × World
  | [], w => (.code 0, w)
  | stage :: rest, w =>
    let (status, _, w) := stage.run runner s tested rest.isEmpty w
    if rest.isEmpty then (status, w) else runStagesFrom runner s tested rest w

/-- Run a pipeline. -/
def runPipeline (runner : Runner) (tested : Bool) (commands : List Command) (background : Bool) :
    ShellM Nat := do
  if background then
    let (i, world) := (← get).world.opening { endpoint := .sink, readable := true }
    modify fun s => { s with world }
    let stages ← makeStages commands [(0, i)]
    let s ← get
    startJob (stages.map Stage.number).reverse
      (runStagesFrom runner { s with effort := s.effort / 2 } tested stages)
    return 0
  spend (processWork * commands.length)
  let stages ← makeStages commands []
  settleJobs
  runStages runner tested stages

/-! ## Loops -/

/-- What is to be left after the commands of a loop have been run. -/
def afterBody : ShellM Skip := do
  let s ← get
  match s.skip with
  | .break_ | .continue_ =>
    if s.skipCount ≤ 1 then
      set { s with skip := .nothing, skipCount := 0 }
      return s.skip
    else
      set { s with skipCount := s.skipCount - 1 }
      return .break_
  | skip => return skip

/-- Whether a loop goes on. -/
def Skip.goesOn : Skip → Bool
  | .nothing | .continue_ => true
  | _ => false

/-- Run a loop while a test succeeds, or until it does, so many times at most. -/
def runLoop (untilHolds : Bool) (test body : ShellM Nat) : Nat → Nat → ShellM Nat
  | 0, _ => do throw (.ended (.signal (← get).overdue))
  | fuel + 1, status => do
    spend 1
    let tested ← test
    match ← afterBody with
    | .nothing =>
      if (tested = 0) = untilHolds then return status
      let status ← body
      if (← afterBody).goesOn then runLoop untilHolds test body fuel status else return status
    | .continue_ => runLoop untilHolds test body fuel status
    | .function _ => return tested
    | .break_ => return status

/-- Run a command for each of some values of a variable. -/
def runForEach (name : String) (body : ShellM Nat) : Nat → List String → ShellM Nat
  | status, [] => return status
  | _, value :: rest => do
    spend 1
    assign name value
    let status ← body
    if (← afterBody).goesOn then runForEach name body status rest else return status

/-- Run an act inside a loop. -/
def insideLoop (act : ShellM Nat) : ShellM Nat := do
  modify fun s => { s with loops := s.loops + 1 }
  let status ← act
  modify fun s => { s with loops := s.loops - 1 }
  return status

/-! ## Choices -/

/-- Whether one of some patterns matches a text. -/
def anyMatches (run : Runner) (text : String) : List Word → ShellM Bool
  | [] => return false
  | w :: rest => do
    if ← wordMatches run w text then return true
    anyMatches run text rest

/-- Run the first branch with a pattern that matches. -/
def runBranches (run : Runner) (manner : Manner) (text : String) :
    List (List Word × Option Command) → ShellM Nat
  | [] => return 0
  | (patterns, body) :: rest => do
    if (← get).skip ≠ .nothing then return 0
    if ← anyMatches run text patterns then
      match body with
      | some c => run c manner
      | none => return 0
    else runBranches run manner text rest

/-! ## Commands -/

/-- Run a command. Returns its status, and whether its failure counts. -/
def runShape (run : Runner) (manner : Manner) : Command → ShellM (Nat × Bool)
  | .simple line assignments words redirections => do
    reachLine line
    return (← noteStatus (← runSimple run manner assignments words redirections), true)
  | .pipeline commands background => do
    return (← noteStatus (← runPipeline run manner.tested commands background), true)
  | .background line body redirections => do
    reachLine line
    let leads ← expandLeads run redirections
    let number ← nextNumber
    let s ← backgroundState
    startJob [number] fun w =>
      let (status, _, w) := runPart run s number (do
        redirect run leads
        run body { last := true }) w
      (status, w)
    return (← noteStatus 0, true)
  | .redirected line body redirections => do
    reachLine line
    let leads ← expandLeads run redirections
    let depth := (← get).kept.length
    if ← redirectFor run leads then
      let status ← run body { tested := manner.tested }
      endRedirectionsTo depth
      return (← noteStatus status, false)
    endRedirectionsTo depth
    return (← noteStatus failureStatus, true)
  | .subshell line body redirections => do
    reachLine line
    let leads ← expandLeads run redirections
    let act : ShellM Nat := do
      redirect run leads
      run body { manner with last := true }
    if manner.last && (← get).hasNoActions then return (← act, true)
    return (← noteStatus (← inPart run act).number, true)
  | .sequence first second => do
    let status ← run first { tested := manner.tested }
    if (← get).skip ≠ .nothing then return (status, false)
    return (← noteStatus (← run second manner), false)
  | .both first second => do
    let status ← run first { tested := true }
    if status ≠ 0 || (← get).skip ≠ .nothing then return (status, false)
    return (← noteStatus (← run second manner), false)
  | .either first second => do
    let status ← run first { tested := true }
    if status = 0 || (← get).skip ≠ .nothing then return (status, false)
    return (← noteStatus (← run second manner), false)
  | .negated body => do
    let status ← run body { tested := true }
    if (← get).skip ≠ .nothing then return (← noteStatus status, false)
    return (← noteStatus (if status = 0 then 1 else 0), false)
  | .conditional test body otherwise => do
    let status ← run test { tested := true }
    if (← get).skip ≠ .nothing then return (status, false)
    if status = 0 then return (← noteStatus (← run body manner), false)
    match otherwise with
    | some c => return (← noteStatus (← run c manner), false)
    | none => return (← noteStatus 0, false)
  | .loop untilHolds test body => do
    let status ← insideLoop
      (runLoop untilHolds (run test { tested := true }) (run body { tested := manner.tested })
        ((← get).effort + 1) 0)
    return (← noteStatus status, false)
  | .forEach line name words body => do
    reachLine line
    let values ← expandAll run words
    let status ← insideLoop (runForEach name (run body { tested := manner.tested }) 0 values)
    return (← noteStatus status, false)
  | .choice line word branches => do
    reachLine line
    let text ← expandText run Style.text word
    return (← noteStatus (← runBranches run manner text branches), false)
  | .function name body => do
    modify fun s => { s with
      functions := (name, body) :: s.functions.filter fun f => f.1 != name }
    return (← noteStatus 0, false)

/-- Handle the signals that arrived in the meantime. -/
def attend (run : Runner) : ShellM Unit := do
  receiveSent
  handleSignals run

/-- Run a command one step deep. -/
def step (run : Runner) : Runner := fun c manner => do
  if ← hasOption 'n' then return 0
  attend run
  let (status, counts) ← runShape run manner c
  attend run
  if counts && status ≠ 0 && !manner.tested && (← hasOption 'e') then throw .finished
  return status

/-- What runs commands that are nested so deep at most. -/
def Runner.nested : Nat → Runner
  | 0 => fun _ _ => throw (.ended (.signal Signal.segmentation))
  | depth + 1 => fun c manner s => step (nested depth) c manner s

end SessionHandoff.Shell
