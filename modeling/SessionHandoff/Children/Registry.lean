import SessionHandoff.Children.Table
import SessionHandoff.Failure.Launch

/-!
# The registry of sessions

The registry holds the children that were handed to it, in order. Polling them drops those that have
exited or are gone. It keeps those that run, and those that could not be polled. Waiting for all of
them empties the registry first and then waits for one child after the other; the first failure is
the outcome.
-/

set_option autoImplicit false

namespace SessionHandoff

/-- The registry, the children it draws on, and the records made. -/
structure ChildRegistry where
  table : ChildTable := []
  held : List ChildId := []
  log : List LogRecord := []
deriving Repr

namespace ChildRegistry

/-- Start a child and register it. -/
def register (r : ChildRegistry) (fate : ExitStatus) : ChildId × ChildRegistry :=
  let started := r.table.start fate
  (started.1, { r with table := started.2, held := r.held ++ [started.1] })

/-- Something happens to the children outside the registry. -/
def outside (r : ChildRegistry) (change : ChildTable → ChildTable) : ChildRegistry :=
  { r with table := change r.table }

/-- The record of a child that somebody else collected. -/
def goneRecord (child : ChildId) : LogRecord :=
  ⟨.warning, "Session " ++ Text.decimalString child ++ " was reaped outside the registry"⟩

/-- The record of a child that could not be polled. -/
def unknownRecord (child : ChildId) (e : Errno) : LogRecord :=
  ⟨.warning, "Failed to poll session " ++ Text.decimalString child ++ ": " ++ e.withNumber⟩

/-- Poll children in order. Returns those that still run, and those that may not be collected yet
although polling them failed. -/
def pollAll (table : ChildTable) : List ChildId → List ChildId × ChildTable × List LogRecord
  | [] => ([], table, [])
  | child :: rest =>
    let polled := table.poll child
    let others := pollAll polled.2 rest
    match polled.1 with
    | .ok none => (child :: others.1, others.2)
    | .ok (some _) => others
    | .error .noChild => (others.1, others.2.1, goneRecord child :: others.2.2)
    | .error e => (child :: others.1, others.2.1, unknownRecord child e :: others.2.2)

/-- Drop the children that are known to run no more, and count the others. -/
def activeCount (r : ChildRegistry) : Nat × ChildRegistry :=
  let polled := pollAll r.table r.held
  (polled.1.length, { table := polled.2.1, held := polled.1, log := r.log ++ polled.2.2 })

/-- Whether any registered child still runs. -/
def hasActiveChildren (r : ChildRegistry) : Bool × ChildRegistry :=
  let counted := r.activeCount
  (decide (0 < counted.1), counted.2)

/-- Wait for children in order until one cannot be waited for. -/
def waitEach (table : ChildTable) : List ChildId → Except LaunchError (List ExitStatus) × ChildTable
  | [] => (.ok [], table)
  | child :: rest =>
    match table.wait child with
    | (.error e, table') => (.error (.io (.system e)), table')
    | (.ok status, table') =>
      let others := waitEach table' rest
      (others.1.map (status :: ·), others.2)

/-- Empty the registry and wait for the children it held. -/
def waitAll (r : ChildRegistry) : Except LaunchError (List ExitStatus) × ChildRegistry :=
  let waited := waitEach r.table r.held
  (waited.1, { r with table := waited.2, held := [] })

end ChildRegistry

/-- Whether either of two owners of children has any that run; the second is asked only if the first
has none. -/
def haveActiveChildren {m : Type → Type} [Monad m] (supervisor authoring : m Bool) : m Bool := do
  if ← supervisor then return true
  authoring

end SessionHandoff
