import SessionHandoff.Json.Value

/-!
# Resource limits of a profile

A limit is unset or a 64-bit number; zero means unset as well. In a written profile a limit is a
plain number, and only numbers up to 2^53 - 1 survive every reader of plain numbers, so larger ones
are written as zero. `ResourceLimits.wireNormalized` is what the reader of a written profile has
after that.
-/

set_option autoImplicit false

namespace SessionHandoff

/-- The greatest limit that is written as itself. -/
def maxWireLimit : UInt64 := 9007199254740991

/-- The limits of a session process. -/
structure ResourceLimits where
  /-- The nice value; zero leaves it alone. -/
  priority : Int32 := 0
  memoryBytes : Option UInt64 := none
  stackBytes : Option UInt64 := none
  userProcesses : Option UInt64 := none
  cpuSeconds : Option UInt64 := none
  nice : Option UInt64 := none
  openFiles : Option UInt64 := none
  /-- Which processors the process may use, by number; no processor named leaves it alone. -/
  cpuAffinity : List Bool := []
deriving DecidableEq, Repr, Inhabited

/-! ## Written form -/

/-- The number that is written for a limit. -/
def limitToWire : Option UInt64 → UInt64
  | some n => if n ≤ maxWireLimit then n else 0
  | none => 0

/-- The limit that a written number stands for. -/
def limitOfWire (n : UInt64) : Option UInt64 :=
  if n = 0 then none else some n

/-- A limit as the reader of a written profile sees it. -/
def wireLimit (limit : Option UInt64) : Option UInt64 :=
  limit.filter fun n => 1 ≤ n && n ≤ maxWireLimit

/-- Reading a written limit gives the limit as the reader sees it. -/
theorem limitOfWire_limitToWire (limit : Option UInt64) :
    limitOfWire (limitToWire limit) = wireLimit limit := by
  cases limit with
  | none => rfl
  | some n =>
    simp only [limitToWire, limitOfWire, wireLimit, Option.filter]
    by_cases hmax : n ≤ maxWireLimit <;> by_cases hzero : n = 0
    · subst hzero; decide
    · have : 1 ≤ n := by
        rw [UInt64.le_iff_toNat_le]
        have : n.toNat ≠ 0 := fun h => hzero (UInt64.toNat_inj.1 h)
        have h1 : (1 : UInt64).toNat = 1 := rfl
        omega
      simp [hmax, hzero, this]
    · subst hzero; exact absurd (by decide) hmax
    · simp [hmax]

namespace ResourceLimits

/-- The six limits in the order memory, stack, processes, processor time, nice, files. -/
def six (l : ResourceLimits) : List (Option UInt64) :=
  [l.memoryBytes, l.stackBytes, l.userProcesses, l.cpuSeconds, l.nice, l.openFiles]

/-- The limits as the reader of a written profile sees them. -/
def wireNormalized (l : ResourceLimits) : ResourceLimits :=
  { l with
    memoryBytes := wireLimit l.memoryBytes
    stackBytes := wireLimit l.stackBytes
    userProcesses := wireLimit l.userProcesses
    cpuSeconds := wireLimit l.cpuSeconds
    nice := wireLimit l.nice
    openFiles := wireLimit l.openFiles }

/-- How many processors the affinity names. -/
def affinityCount (l : ResourceLimits) : Nat :=
  l.cpuAffinity.countP id

end ResourceLimits

end SessionHandoff
