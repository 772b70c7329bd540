import SessionHandoff.Failure.Launch
import SessionHandoff.Profile.Limits

/-!
# Limit plans

A plan is the list of calls to the kernel that the limits of a profile ask for: set resource limits,
then the priority, then the processors. Limits that are unset or zero ask for nothing. A plan exists
unless the affinity names a processor that the kernel cannot name.
-/

set_option autoImplicit false

namespace SessionHandoff

/-- A resource that the kernel limits. Plans name the first six. -/
inductive Resource where
  | addressSpace | stack | processes | cpuTime | nice | openFiles
  | fileSize | dataSize | coreSize | residentSet | lockedMemory | fileLocks | realTime
deriving DecidableEq, Repr

/-- The name of a resource. -/
def Resource.label : Resource → String
  | .addressSpace => "RLIMIT_AS"
  | .stack => "RLIMIT_STACK"
  | .processes => "RLIMIT_NPROC"
  | .cpuTime => "RLIMIT_CPU"
  | .nice => "RLIMIT_NICE"
  | .openFiles => "RLIMIT_NOFILE"
  | .fileSize => "RLIMIT_FSIZE"
  | .dataSize => "RLIMIT_DATA"
  | .coreSize => "RLIMIT_CORE"
  | .residentSet => "RLIMIT_RSS"
  | .lockedMemory => "RLIMIT_MEMLOCK"
  | .fileLocks => "RLIMIT_LOCKS"
  | .realTime => "RLIMIT_RTPRIO"

/-- The calls that limits ask for. -/
structure LimitPlan where
  /-- Resource limits, soft and hard alike, in the order in which they are set. -/
  resources : List (Resource × UInt64)
  /-- The nice value; zero asks for nothing. -/
  priority : Int32
  /-- The numbers of the processors, ascending, if any are named. -/
  processors : Option (List Nat)
deriving DecidableEq, Repr

/-- The indices, counted from `index`, at which a flag is set. -/
def setIndices : Nat → List Bool → List Nat
  | _, [] => []
  | index, true :: rest => index :: setIndices (index + 1) rest
  | index, false :: rest => setIndices (index + 1) rest

/-- Put processors into a set one by one; the first that the kernel cannot name stops it. -/
def collectProcessors : List Nat → Except LaunchError (List Nat)
  | [] => .ok []
  | cpu :: rest =>
    if cpu < affinityCapacity then (collectProcessors rest).map (cpu :: ·)
    else .error (.config (.processorOutOfRange cpu))

/-- The processors that an affinity names; an affinity that names none asks for nothing. -/
def processorsOfAffinity (affinity : List Bool) : Except LaunchError (Option (List Nat)) :=
  if affinity.any id then (collectProcessors (setIndices 0 affinity)).map some
  else .ok none

namespace LimitPlan

/-- A resource limit that is set and not zero. -/
def wanted (resource : Resource) (limit : Option UInt64) : Option (Resource × UInt64) :=
  (limit.filter (· ≠ 0)).map (resource, ·)

/-- The plan of limits. -/
def ofLimits (l : ResourceLimits) : Except LaunchError LimitPlan :=
  (processorsOfAffinity l.cpuAffinity).map fun processors =>
    { resources := [
        (Resource.addressSpace, l.memoryBytes), (.stack, l.stackBytes),
        (.processes, l.userProcesses), (.cpuTime, l.cpuSeconds),
        (.nice, l.nice), (.openFiles, l.openFiles)].filterMap fun c => wanted c.1 c.2
      priority := l.priority
      processors }

/-- Whether the plan asks for nothing. -/
def isEmpty (plan : LimitPlan) : Bool :=
  plan.resources.isEmpty && plan.priority == 0 && plan.processors.isNone

end LimitPlan

end SessionHandoff
