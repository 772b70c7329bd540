import SessionHandoff.Failure.System

/-!
# Children of the launcher

The system keeps each child of a process until somebody collects its exit status. A child runs, then
it has exited and waits to be collected, then it is gone. A child that runs is given with the status
it will exit with, so waiting for it has a result.

A status can be collected once. Whoever asks for it again, or asks for a child that was collected by
somebody else, is told that there is no such child.
-/

set_option autoImplicit false

namespace SessionHandoff

/-- How a process ended. -/
inductive ExitStatus where
  | code (n : Nat)
  | signal (n : Nat)
deriving DecidableEq, Repr

/-- Who collected a status. -/
inductive Collector where
  | registry | other
deriving DecidableEq, Repr

/-- Where a child stands. -/
inductive ChildPhase where
  | running (fate : ExitStatus)
  | exited (status : ExitStatus)
  | collected (by_ : Collector) (status : ExitStatus)
deriving DecidableEq, Repr

/-- A child, by the order in which the children were started. -/
abbrev ChildId := Nat

/-- All children ever started. -/
abbrev ChildTable := List ChildPhase

namespace ChildPhase

/-- Whether the child still runs. -/
def isRunning : ChildPhase → Bool
  | .running _ => true
  | _ => false

/-- The phase after the child has come to its end. -/
def finished : ChildPhase → ChildPhase
  | .running fate => .exited fate
  | phase => phase

/-- The phase after a signal that ends a child. -/
def killed (signal : Nat) : ChildPhase → ChildPhase
  | .running _ => .exited (.signal signal)
  | phase => phase

/-- The phase after somebody has waited for the child. -/
def collectedBy (who : Collector) : ChildPhase → ChildPhase
  | .running status | .exited status => .collected who status
  | phase => phase

end ChildPhase

namespace ChildTable

/-- The table with one more child, and the new child. -/
def start (table : ChildTable) (fate : ExitStatus) : ChildId × ChildTable :=
  (table.length, table ++ [.running fate])

/-- The child comes to its end. -/
def finish (table : ChildTable) (child : ChildId) : ChildTable :=
  table.modify child ChildPhase.finished

/-- The child is ended by a signal. -/
def kill (table : ChildTable) (child : ChildId) (signal : Nat) : ChildTable :=
  table.modify child (ChildPhase.killed signal)

/-- Somebody besides the registry waits for the child. -/
def reap (table : ChildTable) (child : ChildId) : ChildTable :=
  table.modify child (ChildPhase.collectedBy .other)

/-- Ask for the status of a child without waiting; no status means that it still runs. -/
def poll (table : ChildTable) (child : ChildId) : Except Errno (Option ExitStatus) × ChildTable :=
  match table[child]? with
  | some (.running _) => (.ok none, table)
  | some (.exited status) =>
    (.ok (some status), table.modify child (ChildPhase.collectedBy .registry))
  | _ => (.error .noChild, table)

/-- Wait for a child. -/
def wait (table : ChildTable) (child : ChildId) : Except Errno ExitStatus × ChildTable :=
  match table[child]? with
  | some (.running status) | some (.exited status) =>
    (.ok status, table.modify child (ChildPhase.collectedBy .registry))
  | _ => (.error .noChild, table)

end ChildTable

end SessionHandoff
