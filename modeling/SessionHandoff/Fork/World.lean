import SessionHandoff.Fork.Tracker

/-!
# Trees of processes

A world is a tree of processes that grows by forks, each process with its threads. Any thread of any
process may act in any order. A process is named by its position in the order of creation, the root
first; the thread that forks a process is the only one it starts with.
-/

set_option autoImplicit false

namespace SessionHandoff

/-- A process of a world: what it knows, its threads, and the number its next thread gets. -/
structure WorldProcess where
  state : ForkProcess := {}
  threads : List ThreadId := [0]
  nextThread : ThreadId := 1
deriving DecidableEq, Repr

/-- All processes, in the order in which they were made. -/
structure ForkWorld where
  processes : List WorldProcess := [{}]
deriving DecidableEq, Repr

/-- What a thread can do. The platform may refuse the hooks that it is offered. -/
inductive ForkAction where
  | initThread
  | setupHandlers (refusal : Option Errno)
  | spawnThread
  | fork
deriving DecidableEq, Repr

/-- An action of a thread of a process. -/
structure ForkEvent where
  process : Nat
  thread : ThreadId
  action : ForkAction
deriving DecidableEq, Repr

/-- The process after an action of one of its threads, and the process that the action makes. -/
def WorldProcess.act (p : WorldProcess) (thread : ThreadId) :
    ForkAction → WorldProcess × Option WorldProcess
  | .initThread => ({ p with state := (p.state.initThread thread).2 }, none)
  | .setupHandlers refusal => ({ p with state := (p.state.setupHandlers refusal).2 }, none)
  | .spawnThread =>
    ({ p with threads := p.threads ++ [p.nextThread], nextThread := p.nextThread + 1 }, none)
  | .fork =>
    let forked := p.state.fork thread
    ({ p with state := forked.1 }, some ⟨forked.2, [thread], p.nextThread⟩)

namespace ForkWorld

/-- The world after an event. An event of a thread that does not exist changes nothing. -/
def step (w : ForkWorld) (e : ForkEvent) : ForkWorld :=
  match w.processes[e.process]? with
  | none => w
  | some p =>
    if p.threads.contains e.thread then
      let after := p.act e.thread e.action
      ⟨w.processes.set e.process after.1 ++ after.2.toList⟩
    else w

/-- The world after events. -/
def run (w : ForkWorld) (events : List ForkEvent) : ForkWorld :=
  events.foldl step w

end ForkWorld

end SessionHandoff
