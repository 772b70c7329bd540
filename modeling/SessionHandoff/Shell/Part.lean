import SessionHandoff.Shell.State

/-!
# Scripts inside scripts

A text is run as a script of its own; the actions for signals are such texts. A part of a shell is a
copy of it that runs a command and then ends, and of which nothing stays but what it did to the
world. When a shell ends, in whatever way, it runs the action for its end and leaves the jobs that
nobody waited for to themselves.
-/

set_option autoImplicit false

namespace SessionHandoff.Shell

/-! ## Texts as scripts -/

/-- Run the lines of a script, so many at most. -/
def runLines (run : Runner) (manner : Manner) : Nat → Reading → Nat → ShellM Nat
  | 0, _, status => return status
  | fuel + 1, reading, status => do
    let s ← get
    let start := { reading with
      aliases := s.aliases, nextDocument := s.nextDocument, documents := [] }
    let (line, reading) := nextLine start
    modify fun s => { s with
      documents := reading.documents ++ s.documents
      nextDocument := reading.nextDocument
      readLine := reading.line }
    match line with
    | .finished => return status
    | .wrong e =>
      modify fun s => { s with line := e.line }
      fail ("Syntax error: " ++ e.message)
    | .command none _ => runLines run manner fuel reading status
    | .command (some c) isLast =>
      let status ← run c { manner with last := manner.last && isLast }
      if (← get).skip ≠ .nothing then return status
      runLines run manner fuel reading status

/-- Run a text as a script. -/
def runText (run : Runner) (text : String) (manner : Manner := {}) : ShellM Nat := do
  let reached := (← get).readLine
  let status ← runLines run manner (text.length + 2) { layers := [⟨text.toList, none, false⟩] } 0
  modify fun s => { s with readLine := reached }
  return status

/-! ## Signals -/

/-- A signal comes to the process of the shell. If it is blocked, it waits. -/
def receive (signal : Nat) : ShellM Unit := do
  let s ← get
  if s.deaf.contains signal then return
  if !s.process.takes signal then
    set { s with world := { s.world with sent := s.world.sent ++ [(s.process.number, signal)] } }
    return
  match s.traps.lookup signal with
  | some action =>
    if Signal.isCertain signal then throw (.ended (.signal signal))
    else if !action.isEmpty then
      set { s with arrived := if s.arrived.contains signal then s.arrived
        else signal :: s.arrived }
  | none =>
    if s.process.isEndedBy signal then throw (.ended (.signal signal))

/-- The signals that others sent arrive, unless they are blocked. -/
def receiveSent : ShellM Unit := do
  let s ← get
  let isMine (e : Nat × Nat) : Bool := e.1 == s.process.number && s.process.takes e.2
  let mine := s.world.sent.filter isMine
  if mine.isEmpty then return
  set { s with world := { s.world with sent := s.world.sent.filter (!isMine ·) } }
  for (_, signal) in mine do
    receive signal

/-- Run the actions for the signals that arrived. -/
def handleSignals (run : Runner) : ShellM Unit := do
  let s ← get
  if s.arrived.isEmpty then return
  let before := s.statusBefore?
  let status := before.getD s.status
  set { s with statusBefore? := some status }
  for signal in s.arrived.mergeSort do
    if (← get).skip = .nothing then
      modify fun s => { s with arrived := s.arrived.filter (· != signal) }
      match s.traps.lookup signal with
      | some action =>
        if !action.isEmpty then
          let _ ← runText run action
          if (← get).skip ≠ .function true then modify fun s => { s with status }
      | none => pure ()
  modify fun s => { s with statusBefore? := before }

/-! ## Jobs -/

/-- Run a job that was not run yet, from the time at which it was started. -/
def Job.settle (job : Job) (w : World) : Job × World :=
  match job.stage with
  | .ended _ _ => (job, w)
  | .waiting run =>
    let now := w.clock
    let (status, after) := run { w with clock := job.start }
    ({ job with stage := .ended status after.clock }, { after with clock := now })

/-- Run all jobs that were not run yet. -/
def settleJobs {m : Type → Type} [Monad m] [MonadStateOf State m] : m Unit := do
  let s ← get
  let (jobs, world) := s.jobs.foldl (fun (acc : List Job × World) job =>
    let (job, w) := job.settle acc.2
    (acc.1 ++ [job], w)) ([], s.world)
  set { s with jobs, world }

/-- Say how a process ended, if a signal ended it. -/
def reportEnd (status : ExitStatus) : ShellM Unit := do
  match status with
  | .code _ => return
  | .signal n =>
    match Signal.obituary n with
    | some text => say (text ++ "\n")
    | none => return

/-! ## Ends -/

/-- The state after leaving what was being run, with all redirections ended. -/
def resetAfter (requested : Bool) (s : State) : State :=
  { s with
    process := s.kept.foldl (fun p frame => p.restored false frame) s.process
    kept := []
    status := if requested then s.statusBefore?.getD s.status else s.status
    statusBefore? := none
    skip := .nothing
    loops := 0
    tracing := false
    command? := none }

/-- The end of a shell whose script came to the given result. -/
def finish (run : Runner) (result : Except Jump Nat) : StateM State ExitStatus := do
  match result with
  | .error (.ended status) =>
    settleJobs
    return status
  | _ =>
    modify (resetAfter (match result with
      | .error .exit => true
      | _ => false))
    let s ← get
    let status := s.status
    match s.traps.lookup 0 with
    | none => pure ()
    | some action =>
      set { s with traps := s.traps.filter (·.1 ≠ 0), statusBefore? := some status }
      match ← (runText run action).run with
      | .error (.ended status) =>
        settleJobs
        return status
      | .error .exit | .ok _ => modify (resetAfter true)
      | .error _ => modify (resetAfter false)
    settleJobs
    return .code ((← get).status % 256)

/-! ## Parts -/

/-- A shell as a part of another begins. -/
def State.asPart (s : State) (number : Nat) : State :=
  { s with
    process := { s.process with
      number, ancestors := s.process.number :: s.process.ancestors }
    traps := s.traps.filter fun t => t.2.isEmpty
    kept := []
    arrived := []
    jobs := []
    isPart := true }

/-- What running an act as a part does to the world: the status of the part, and how much work
may still be done. -/
def runPart (run : Runner) (s : State) (number : Nat) (act : ShellM Nat) (w : World) :
    ExitStatus × Nat × World :=
  let (result, part) := act.run.run ({ s with world := w }.asPart number)
  let (status, part) := (finish run result).run part
  (status, part.effort, part.world)

/-- The number of a new process. The first job that was waited for is forgotten. -/
def nextNumber : ShellM Nat := do
  let s ← get
  let number := s.world.lastProcess + 1
  let over? := ((s.jobs.filter Job.waited).map Job.place).min?
  set { s with
    world := { s.world with lastProcess := number }
    jobs := s.jobs.filter fun j => some j.place ≠ over? }
  return number

/-- The signal that tells of the end of a process. -/
def childSignal : Nat := 17

/-- A process of the shell has ended. -/
def noteEnd : ShellM Unit := do
  receiveSent
  if ((← get).traps.lookup childSignal).isSome then receive childSignal

/-- The work for a new process. -/
def processWork : Nat := 8

/-- Run an act as a part, which ends with it. Jobs go on meanwhile. -/
def inPart (run : Runner) (act : ShellM Nat) : ShellM ExitStatus := do
  spend processWork
  let number ← nextNumber
  settleJobs
  let s ← get
  let (status, effort, world) := runPart run s number act s.world
  set { s with world, effort }
  reportEnd status
  noteEnd
  return status

/-- The process with other things open under some numbers. -/
def withDescriptors (descriptors : List (Nat × Nat)) (p : Process) : Process :=
  descriptors.foldl (fun p d => p.withDescriptor d.1 d.2) p

/-- Open a pipe: where it is read and where it is written. Both ends need a number; so many others
are needed besides. -/
def openPipe (others : Nat := 0) : ShellM (Nat × Nat) := do
  let s ← get
  let used := (s.process.descriptors.filter fun d => d.1 < s.process.descriptorLimit).length
  if s.process.descriptorLimit < used + others + 2 then fail "Pipe call failed"
  let (ends, world) := s.world.piping []
  set { s with world }
  return ends

/-- What a command writes, with its status noted. -/
def outputOf (run : Runner) (body : Option Command) : ShellM (List Char) := do
  match body with
  | none => return []
  | some c =>
    let (reader, writer) ← openPipe
    let status ← inPart run (do
      modify fun s => { s with process := s.process.withDescriptor 1 writer }
      run c { last := true })
    let s ← get
    let (r, world) := s.world.readAt reader (s.world.available reader)
    set { s with world, substitutionStatus := status.number }
    match r with
    | .ok bytes => return Octets.ofBytes bytes
    | .error _ => return []

end SessionHandoff.Shell
