import SessionHandoff.Shell.Builtin.Call

/-!
# Jobs and signals

The builtin commands for processes: writing jobs and waiting for them, sending signals, and setting
the actions for signals that arrive.
-/

set_option autoImplicit false

namespace SessionHandoff.Shell

/-! ## Jobs -/

/-- The status of a job that has ended by now. -/
def Job.ended? (job : Job) (now : Nat) : Option ExitStatus :=
  match job.stage with
  | .ended status time => if time ≤ now then some status else none
  | .waiting _ => none

/-- How a job stands, in words. -/
def Job.standing (job : Job) (now : Nat) : String :=
  match job.ended? now with
  | none => "Running"
  | some (.code 0) => "Done"
  | some (.code n) => "Done(" ++ Text.decimalString n ++ ")"
  | some (.signal n) => Signal.description n

/-- A job as it is written. The latest jobs come first and are marked. -/
def Job.shown (job : Job) (position now : Nat) : String :=
  let mark := if position = 0 then "+" else if position = 1 then "-" else " "
  let text := "[" ++ Text.decimalString job.place ++ "] " ++ mark ++ " " ++ job.standing now
  text ++ String.ofList (List.replicate (max 1 (33 - text.length)) ' ') ++
    String.join ((job.processes.drop 1).map fun _ => " | ") ++ "\n"

/-- The job that an argument names. -/
def namedJob (name : String) : ShellM Job := do
  let s ← get
  let found? := match name.toList with
    | ['%'] | ['%', '+'] | ['%', '%'] => s.jobs.head?
    | ['%', '-'] => s.jobs[1]?
    | '%' :: digits => (Text.natural? digits).bind fun n => s.jobs.find? fun j => j.place == n
    | _ => none
  match found? with
  | some job => return job
  | none =>
    if ["%", "%+", "%%"].contains name then fail "No current job"
    fail ("No such job: " ++ name)

/-- Put a changed job in its place. -/
def putJob (job : Job) : ShellM Unit :=
  modify fun s => { s with jobs := s.jobs.map fun j => if j.place = job.place then job else j }

/-- Wait until a job has ended. Where that takes time, no signals are blocked from then on. -/
def awaitJob (job : Job) : ShellM ExitStatus := do
  let s ← get
  if (job.ended? s.world.clock).isNone then
    modify fun s => { s with process := { s.process with blocked := [] } }
  let s ← get
  let (job, world) := job.settle s.world
  match job.stage with
  | .ended status time =>
    set { s with world := { world with clock := max world.clock time } }
    putJob { job with waited := true }
    return status
  | .waiting _ => return .code 0

/-- Write a job, or only the number of its process. A job that has ended is forgotten. -/
def showJob (numbers : Bool) (job : Job) : ShellM Unit := do
  let s ← get
  let now := s.world.clock
  let position := s.jobs.findIdx fun j => j.place == job.place
  emit (if numbers then Text.decimalString (job.processes.getLastD 0) ++ "\n"
    else job.shown position now)
  if (job.ended? now).isSome then
    modify fun s => { s with jobs := s.jobs.filter fun j => j.place ≠ job.place }

/-- Write jobs. -/
def showJobs : Builtin := fun call => do
  let options ← call.options "lp"
  let numbers := options.has 'p'
  if options.rest.isEmpty then
    for job in (← get).jobs do showJob numbers job
  else
    for name in options.rest do showJob numbers (← namedJob name)
  return 0

/-- Wait for jobs. -/
def waitForJobs : Builtin := fun call => do
  let options ← call.options
  if options.rest.isEmpty then
    for job in (← get).jobs.reverse do
      let _ ← awaitJob job
    noteEnd
    return 0
  let mut status := 127
  for arg in options.rest do
    let job? ← (do
      if arg.startsWith "%" then return some (← namedJob arg)
      let n ← number arg
      return (← get).jobs.find? fun j => j.processes.head? == some n)
    match job? with
    | none => status := 127
    | some job =>
      let ended ← awaitJob job
      if !job.waited then reportEnd ended
      noteEnd
      status := ended.number
  return status

/-- Job control is never on, so no job can be taken up again. -/
def takeUpJob : Builtin := fun call => do
  let options ← call.options
  let name ← match options.rest with
    | [] =>
      if (← get).jobs.isEmpty then fail "No current job"
      pure "%1"
    | name :: _ => pure name
  let job ← namedJob name
  fail ("job %" ++ Text.decimalString job.place ++ " not created under job control")

/-! ## Sending signals -/

/-- What is said about a wrong use of `kill`. -/
def killUsage : String :=
  "Usage: kill [-s sigspec | -signum | -sigspec] [pid | job]... or\nkill -l [exitstatus]"

/-- The signal that a number names. -/
def numberedSignal? (word : String) : Option Nat :=
  (Text.natural? word.toList).filter (· ≤ Signal.count)

/-- The signal that a word names. -/
def signalOf? (word : String) : Option Nat :=
  if (Text.natural? word.toList).isSome then numberedSignal? word else Signal.ofName? word

/-- Write the names of signals: of all of them, or of the one that a status stands for. -/
def listSignals : List String → ShellM Nat
  | [] => do
    emit "0\n"
    for n in Signal.numbers.drop 1 do
      emit (Signal.name n ++ "\n")
    return 0
  | word :: _ => do
    let n ← number word
    let signal := if 128 < n then n - 128 else n
    if 0 < signal ∧ signal ≤ Signal.count then
      emit (Signal.name signal ++ "\n")
      return 0
    else fail ("invalid signal number or exit status: " ++ word)

/-- End a job by a signal, if it has not ended by itself. -/
def Job.end (job : Job) (signal now : Nat) : Job :=
  match job.stage with
  | .ended _ time =>
    if time ≤ now || signal = 0 then job else { job with stage := .ended (.signal signal) now }
  | .waiting _ => job

/-- Send a signal to a process. Returns whether there is one with the number. -/
def sendSignal (signal target : Nat) : ShellM Bool := do
  let s ← get
  let w := s.world
  let note : ShellM Unit :=
    set { s with world := { w with sent := w.sent ++ [(target, signal)] } }
  if target = s.process.number then
    if signal ≠ 0 then receive signal
    return true
  match s.jobs.find? fun j => j.processes.contains target with
  | some job =>
    match job.stage with
    | .waiting _ =>
      note
      let (job, world) := job.settle (← get).world
      modify fun s => { s with world }
      putJob job
    | .ended .. => if s.process.isEndedBy signal then putJob (job.end signal w.clock)
    return !job.waited
  | none =>
    if s.process.ancestors.contains target then
      note
      return true
    return false

/-- The process that an argument of `kill` names. Groups of processes and jobs name none, because no
job has a group of its own. -/
def killTarget (arg : String) : ShellM (Option Nat) := do
  match arg.toList with
  | '%' :: _ =>
    let _ ← namedJob arg
    return none
  | '-' :: digits =>
    let _ ← number (String.ofList digits)
    return none
  | _ => return some (← number arg)

/-- The signal of the options of `kill`, whether signals are to be written, and the arguments that
are left. -/
def killOptions (call : Call) : ShellM (Option Nat × Bool × List String) := do
  let first := (call.args.headD "").toList
  if first.head? ≠ some '-' then return (none, false, call.args)
  match signalOf? (String.ofList (first.drop 1)) with
  | some n =>
    if n ≠ 0 || first = ['-', '0'] then return (some n, false, call.args.drop 1)
  | none => pure ()
  let options ← call.options "ls:"
  match (options.letters.filter fun l => l.1 == 's').getLast? with
  | none => return (none, options.has 'l', options.rest)
  | some (_, word) =>
    match signalOf? word with
    | some n => return (some n, options.has 'l', options.rest)
    | none => fail ("invalid signal number or name: " ++ word)

/-- Send a signal to processes, or write the names of signals. -/
def kill : Builtin := fun call => do
  if call.args.isEmpty then fail killUsage
  let (signal?, lists, targets) ← killOptions call
  if lists then return ← listSignals targets
  if targets.isEmpty then fail killUsage
  let mut status := 0
  for target in targets do
    let found ← (do
      match ← killTarget target with
      | some n => sendSignal (signal?.getD 15) n
      | none => return false)
    if !found then
      complain "No such process\n"
      status := 1
  return status

/-! ## Actions -/

/-- Set or clear the action of a signal. -/
def setAction (action? : Option String) (signal : Nat) : ShellM Unit :=
  modify fun s =>
    let others := s.traps.filter (·.1 ≠ signal)
    let ignored := s.process.ignored.filter (· != signal)
    { s with
      traps := match action? with
        | some action => (signal, action) :: others
        | none => others
      process := { s.process with
        ignored := if action? = some "" && !Signal.isCertain signal && signal ≠ 0 then
          signal :: ignored else ignored } }

/-- Set actions for signals, or write them. -/
def trap : Builtin := fun call => do
  let options ← call.options
  match options.rest with
  | [] =>
    for (signal, action) in (← get).traps.mergeSort fun a b => a.1 ≤ b.1 do
      emit ("trap -- " ++ singleQuoted action ++ " " ++ Signal.name signal ++ "\n")
    return 0
  | first :: rest =>
    let (action?, signals) : Option String × List String :=
      if rest.isEmpty || (numberedSignal? first).isSome then (none, options.rest)
      else if first = "-" then (none, rest)
      else (some first, rest)
    for word in signals do
      match signalOf? word with
      | none =>
        say ("trap: " ++ word ++ ": bad trap\n")
        return 1
      | some signal => setAction action? signal
    return 0

end SessionHandoff.Shell
