import SessionHandoff.Failure.Launch

/-!
# Tracking forks and the main thread

A process records once which of its threads is the main one, and installs hooks that run around
every fork: before it, after it in the parent, and after it in the child. A child starts with the
memory of its parent as it is after the first hook, and with the forking thread alone.

The hooks of the tracker count the forks of the main thread in the parent and mark the child as
forked. Other hooks may be installed instead; the first ones offered stay. The platform runs hooks
as often as it has taken them, so they are offered until it takes them, and no more after that.

The main thread is known in two ways, by its identity in the memory of the process and by a flag of
the thread itself. A disagreement of the two is recorded.
-/

set_option autoImplicit false

namespace SessionHandoff

/-- A thread of a process. A thread keeps its number in the child that it forks. -/
abbrev ThreadId := Nat

/-- The hooks that run around a fork. -/
inductive ForkHooks where
  /-- The hooks of the tracker. -/
  | tracker
  /-- Hooks that count how often each of them ran. -/
  | counting
deriving DecidableEq, Repr

/-- What a process knows about forks and threads. -/
structure ForkProcess where
  /-- The thread recorded as the main one. -/
  mainThread : Option ThreadId := none
  /-- The threads whose own flag says that they are the main one. -/
  flagged : List ThreadId := []
  /-- Whether the process is marked as forked. -/
  wasForked : Bool := false
  /-- Forks seen by the parent hook on the main thread. -/
  forksObserved : Nat := 0
  /-- The hooks that were offered first. -/
  offered : Option ForkHooks := none
  /-- How often the platform has taken the hooks. It runs them as often around every fork. -/
  registrations : Nat := 0
  /-- Whether hooks are known to be installed. -/
  installed : Bool := false
  countedBefore : Nat := 0
  countedParent : Nat := 0
  countedChild : Nat := 0
deriving DecidableEq, Repr

namespace ForkProcess

/-! ## The main thread -/

/-- Record the calling thread as the main one, once. -/
def initThread (p : ForkProcess) (thread : ThreadId) : Except LaunchError Unit × ForkProcess :=
  match p.mainThread with
  | some _ => (.error .alreadyInitialized, p)
  | none => (.ok (), { p with mainThread := some thread, flagged := thread :: p.flagged })

/-- Whether the thread is the recorded main thread by its identity. -/
def isRecordedMain (p : ForkProcess) (thread : ThreadId) : Bool :=
  p.mainThread == some thread

/-- Whether the thread takes itself for the main one, with a record if its identity disagrees. -/
def isMainThread (p : ForkProcess) (thread : ThreadId) : Bool × List LogRecord :=
  let flag := p.flagged.contains thread
  (flag, if flag = p.isRecordedMain thread then []
    else [⟨.error, "isMainThread check - thread-local flag disagrees with thread identity"⟩])

/-! ## Hooks -/

/-- Offer hooks to the platform, unless some are installed. It takes them, or refuses them with an
error number. The hooks offered first are the ones that stay, also if they were refused; what is
refused can be offered again. Returns the records made. -/
def offerHooks (p : ForkProcess) (hooks : ForkHooks) (refusal : Option Errno) :
    (Except LaunchError Unit × List LogRecord) × ForkProcess :=
  if p.installed then ((.ok (), []), p)
  else
    let p := { p with offered := some (p.offered.getD hooks) }
    match refusal with
    | some e =>
      ((.error (.process (.hooksRefused e)),
        [⟨.error, "Failed to install fork handlers: " ++ e.withNumber⟩]), p)
    | none => ((.ok (), []), { p with registrations := p.registrations + 1, installed := true })

/-- Install hooks. The platform takes them unless a refusal is given. -/
def installHooks (p : ForkProcess) (hooks : ForkHooks) (refusal : Option Errno := none) :
    Except LaunchError Unit × ForkProcess :=
  let r := p.offerHooks hooks refusal
  (r.1.1, r.2)

/-- Install the hooks of the tracker. -/
def setupHandlers (p : ForkProcess) (refusal : Option Errno := none) :
    Except LaunchError Unit × ForkProcess :=
  p.installHooks .tracker refusal

/-- The hook of the tracker before a fork. It changes nothing. -/
def trackBefore (p : ForkProcess) (_thread : ThreadId) : ForkProcess := p

/-- The hook of the tracker in the parent: a fork of the main thread is counted. -/
def trackParent (p : ForkProcess) (thread : ThreadId) : ForkProcess :=
  if p.isRecordedMain thread then { p with forksObserved := p.forksObserved + 1 } else p

/-- The hook of the tracker in the child: the child is marked. -/
def trackChild (p : ForkProcess) : ForkProcess :=
  { p with wasForked := true }

/-- The hook before a fork, of the hooks that were offered. -/
def hookBefore (p : ForkProcess) (thread : ThreadId) : ForkProcess :=
  match p.offered with
  | some .tracker => p.trackBefore thread
  | some .counting => { p with countedBefore := p.countedBefore + 1 }
  | none => p

/-- The hook in the parent, of the hooks that were offered. -/
def hookParent (p : ForkProcess) (thread : ThreadId) : ForkProcess :=
  match p.offered with
  | some .tracker => p.trackParent thread
  | some .counting => { p with countedParent := p.countedParent + 1 }
  | none => p

/-- The hook in the child, of the hooks that were offered. -/
def hookChild (p : ForkProcess) : ForkProcess :=
  match p.offered with
  | some .tracker => p.trackChild
  | some .counting => { p with countedChild := p.countedChild + 1 }
  | none => p

/-- Run a hook once for every registration. -/
def runHook (p : ForkProcess) (hook : ForkProcess → ForkProcess) : ForkProcess :=
  p.registrations.repeat hook p

/-- Fork on a thread. Returns the parent and the child. -/
def fork (p : ForkProcess) (thread : ThreadId) : ForkProcess × ForkProcess :=
  let before := p.runHook (·.hookBefore thread)
  let copy := { before with flagged := before.flagged.filter (· == thread) }
  (before.runHook (·.hookParent thread), copy.runHook hookChild)

end ForkProcess

end SessionHandoff
