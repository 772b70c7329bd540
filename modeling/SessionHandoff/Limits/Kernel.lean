import SessionHandoff.Limits.Plan
import SessionHandoff.Profile.Wire

/-!
# Applying limits

A kernel answers calls. Its answer may depend on anything it remembers; a `Kernel` is any such
function. A plan is applied in two ways. `LimitPlan.apply` works on the launcher itself: a refusal
is an error or a warning. `LimitPlan.applyInChild` works in a new process that cannot report: a
refusal ends it or is passed over. Both keep a record of the calls they issue.

`Kernel.linux` is the kernel that sessions run under.
-/

set_option autoImplicit false

namespace SessionHandoff

/-- A call to the kernel. -/
inductive KernelCall where
  | setLimit (resource : Resource) (value : UInt64)
  | setPriority (value : Int32)
  | setAffinity (processors : List Nat)
deriving DecidableEq, Repr

/-- A kernel answers each call with an error or without one, and remembers what it wants. -/
structure Kernel (σ : Type) where
  answer : KernelCall → σ → Option Errno × σ

/-- A kernel in use: what it remembers and the calls issued so far. -/
structure KernelRun (σ : Type) where
  state : σ
  issued : List KernelCall := []

/-- Issue a call. -/
def Kernel.call {σ : Type} (kernel : Kernel σ) (c : KernelCall) :
    StateM (KernelRun σ) (Option Errno) := fun run =>
  let r := kernel.answer c run.state
  (r.1, ⟨r.2, run.issued ++ [c]⟩)

namespace LimitPlan

/-- All calls of the plan in order. -/
def calls (plan : LimitPlan) : List KernelCall :=
  plan.resources.map (fun r => .setLimit r.1 r.2) ++
    (if plan.priority = 0 then [] else [.setPriority plan.priority]) ++
    (plan.processors.map KernelCall.setAffinity).toList

/-! ## In the launcher -/

/-- A kernel in use together with the records made. -/
structure ApplyState (σ : Type) where
  run : KernelRun σ
  log : List LogRecord := []

/-- Applying in the launcher. -/
abbrev ApplyM (σ : Type) := ExceptT LaunchError (StateM (ApplyState σ))

variable {σ : Type}

/-- Issue a call in the launcher. -/
def issue (kernel : Kernel σ) (c : KernelCall) : ApplyM σ (Option Errno) := do
  let s ← get
  let r := (kernel.call c).run s.run
  set { s with run := r.2 }
  return r.1

/-- Fail with a refusal, or record it where limits need not be met. -/
def refuse (strict : Bool) (r : LimitRefusal) : ApplyM σ Unit :=
  if strict then throw (.process (.refused r))
  else modify fun s =>
    { s with log := s.log ++ [⟨.warning, r.subject ++ " in permissive mode: " ++ r.reason⟩] }

/-- Set resource limits in the launcher. -/
def applyResources (kernel : Kernel σ) (strict : Bool) : List (Resource × UInt64) → ApplyM σ Unit
  | [] => pure ()
  | (resource, value) :: rest => do
    match ← issue kernel (.setLimit resource value) with
    | some e => refuse strict (.resource resource.label value e)
    | none => pure ()
    applyResources kernel strict rest

/-- Set the priority in the launcher. -/
def applyPriority (kernel : Kernel σ) (strict : Bool) (priority : Int32) : ApplyM σ Unit :=
  if priority = 0 then pure ()
  else do
    match ← issue kernel (.setPriority priority) with
    | some e => refuse strict (.priority priority e)
    | none => pure ()

/-- Set the processors in the launcher. -/
def applyProcessors (kernel : Kernel σ) (strict : Bool) : Option (List Nat) → ApplyM σ Unit
  | none => pure ()
  | some processors => do
    match ← issue kernel (.setAffinity processors) with
    | some e => refuse strict (.affinity e)
    | none => pure ()

/-- Apply a plan to the launcher itself. -/
def apply (kernel : Kernel σ) (strict : Bool) (plan : LimitPlan) : ApplyM σ Unit := do
  applyResources kernel strict plan.resources
  applyPriority kernel strict plan.priority
  applyProcessors kernel strict plan.processors

/-! ## In a new process -/

/-- Applying in a new process. -/
abbrev ChildM (σ : Type) := ExceptT IoError (StateM (KernelRun σ))

/-- Issue a call in a new process; a refusal ends it where limits have to be met. -/
def issueInChild (kernel : Kernel σ) (strict : Bool) (c : KernelCall) : ChildM σ Unit := do
  match ← kernel.call c with
  | none => pure ()
  | some e => if strict then throw (.system e) else pure ()

/-- Apply a plan to a new process. -/
def applyInChild (kernel : Kernel σ) (strict : Bool) (plan : LimitPlan) : ChildM σ Unit := do
  plan.resources.forM fun r => issueInChild kernel strict (.setLimit r.1 r.2)
  if plan.priority ≠ 0 then issueInChild kernel strict (.setPriority plan.priority)
  match plan.processors with
  | none => pure ()
  | some processors => issueInChild kernel strict (.setAffinity processors)

end LimitPlan

/-- What applying limits came to. -/
structure Applied (σ : Type) where
  result : Except LaunchError Unit
  log : List LogRecord
  run : KernelRun σ

/-- Apply limits to the launcher itself. -/
def applyLimits {σ : Type} (kernel : Kernel σ) (strict : Bool) (l : ResourceLimits)
    (run : KernelRun σ) : Applied σ :=
  match LimitPlan.ofLimits l with
  | .error e => ⟨.error e, [], run⟩
  | .ok plan =>
    if plan.isEmpty then ⟨.ok (), [], run⟩
    else
      let r := (plan.apply kernel strict).run.run ⟨run, []⟩
      ⟨r.1, r.2.log, r.2.run⟩

/-! ## The kernel that sessions run under -/

/-- The value of a limit that limits nothing. -/
def unlimited : UInt64 := 0xFFFFFFFFFFFFFFFF

/-- The two limits of a resource: the one that holds, and the one up to which it may be raised. -/
structure Bound where
  soft : UInt64
  hard : UInt64
deriving DecidableEq, Repr

/-- The limits that a process starts with. -/
def Resource.bound : Resource → Bound
  | .stack => ⟨8388608, unlimited⟩
  | .coreSize => ⟨0, unlimited⟩
  | .lockedMemory => ⟨8388608, 8388608⟩
  | .processes => ⟨128619, 128619⟩
  | .openFiles => ⟨20000, 20000⟩
  | .nice | .realTime => ⟨0, 0⟩
  | _ => ⟨unlimited, unlimited⟩

/-- What the kernel keeps of one process. -/
structure ProcessLimits where
  /-- The resource limits that were set, latest first. -/
  bounds : List (Resource × Bound) := []
  nice : Int := 0
  processors : Option (List Nat) := none
deriving DecidableEq, Repr

namespace ProcessLimits

/-- The limits of a resource. -/
def bound (p : ProcessLimits) (r : Resource) : Bound :=
  (p.bounds.lookup r).getD r.bound

/-- Set the limits of a resource. The one that holds stays below the other, and the other is never
raised. -/
def setBound (p : ProcessLimits) (r : Resource) (b : Bound) : Option Errno × ProcessLimits :=
  if b.hard < b.soft then (some .invalidArgument, p)
  else if (p.bound r).hard < b.hard then (some .notPermitted, p)
  else (none, { p with bounds := (r, b) :: p.bounds })

end ProcessLimits

/-- The least and the greatest nice value. -/
def niceRange : Int × Int := (-20, 19)

/-- A nice value brought into its range. -/
def clampNice (v : Int) : Int :=
  max niceRange.1 (min niceRange.2 v)

/-- The number of processors of the machine. -/
def processorCount : Nat := 4

/-- Set the nice value, brought into its range. A process may not favour itself. -/
def ProcessLimits.setNice (p : ProcessLimits) (v : Int) : Option Errno × ProcessLimits :=
  if clampNice v < p.nice then (some .accessDenied, p) else (none, { p with nice := clampNice v })

/-- The kernel of a process without privileges. It refuses limits above the one that was set before,
nice values below the present one, and processors of which the machine has none. -/
def Kernel.linux : Kernel ProcessLimits where
  answer
    | .setLimit r v, p => p.setBound r ⟨v, v⟩
    | .setPriority v, p => p.setNice v.toInt
    | .setAffinity processors, p =>
      if processors.any (· < processorCount) then (none, { p with processors := some processors })
      else (some .invalidArgument, p)

end SessionHandoff
