import SessionHandoff.Failure.Launch
import SessionHandoff.Json.Printer
import SessionHandoff.Profile.Basic
import SessionHandoff.Profile.Reading

/-!
# Profiles as JSON values

`LaunchProfile.toJson` writes every profile. `LaunchProfile.reading` reads a profile from any value
and says which fields are at fault. A decode policy turns the faults into an outcome: the strict one
fails with the first, the best-effort one records all of them and keeps the profile.
-/

set_option autoImplicit false

namespace SessionHandoff

/-- What faults of fields mean. -/
inductive DecodePolicy where
  /-- Faults are recorded, defaults stand in, and a profile always results. -/
  | bestEffort
  /-- The first fault refuses the profile. -/
  | strict
deriving DecidableEq, Repr, Inhabited

/-- An outcome together with the records made on the way. -/
structure Logged (α : Type) where
  result : Except LaunchError α
  log : List LogRecord := []

/-! ## Writing -/

/-- A field with its content, as a member of an object. -/
def WireField.entry (f : WireField) (v : Json) : String × Json := (f.key, v)

namespace Json

/-- An unsigned integer as a value. -/
def ofUInt64 (n : UInt64) : Json :=
  .number (.integer n.toNat ⟨by omega, by have := n.toNat_lt; omega⟩)

/-- A 32-bit signed integer as a value. -/
def ofInt32 (n : Int32) : Json :=
  .number (.integer n.toInt
    ⟨by have := n.le_toInt; omega, by have := n.toInt_lt; omega⟩)

/-- A written limit as a value. -/
def ofLimit (limit : Option UInt64) : Json :=
  ofUInt64 (limitToWire limit)

/-- An affinity as a value. -/
def ofAffinity (affinity : List Bool) : Json :=
  .array (affinity.map .flag)

end Json

/-- The number written for a stream behavior, as a value. -/
def StreamBehavior.toJson : StreamBehavior → Json
  | .inherit => Json.ofUInt64 0
  | .capture => Json.ofUInt64 1
  | .discard => Json.ofUInt64 2

/-- The written form of a context. -/
def SessionContext.toJson (c : SessionContext) : Json :=
  .object [
    WireField.entry .id (.text c.scope.id),
    WireField.entry .project (.text c.scope.project),
    WireField.entry .username (.text c.username)]

/-- The written form of an environment. -/
def Environment.toJson (e : Environment) : Json :=
  .object (e.entries.map fun v => (v.1, .text v.2))

/-- The written form of the settings of a process, limits included. -/
def ProcessConfig.toJson (c : ProcessConfig) : Json :=
  .object [
    WireField.entry .args (.array (c.args.map .text)),
    WireField.entry .cpuAffinity (.ofAffinity c.limits.cpuAffinity),
    WireField.entry .cpuSeconds (.ofLimit c.limits.cpuSeconds),
    WireField.entry .environment c.environment.toJson,
    WireField.entry .openFiles (.ofLimit c.limits.openFiles),
    WireField.entry .memoryBytes (.ofLimit c.limits.memoryBytes),
    WireField.entry .nice (.ofLimit c.limits.nice),
    WireField.entry .priority (.ofInt32 c.limits.priority),
    WireField.entry .stackBytes (.ofLimit c.limits.stackBytes),
    WireField.entry .stdInput (.text c.stdInput),
    WireField.entry .streams c.streams.toJson,
    WireField.entry .userProcesses (.ofLimit c.limits.userProcesses)]

/-- The written form of a profile. -/
def LaunchProfile.toJson (p : LaunchProfile) : Json :=
  .object [
    WireField.entry .config p.config.toJson,
    WireField.entry .context p.context.toJson,
    WireField.entry .encryptionKey (.text p.encryptionKey),
    WireField.entry .executable (.text p.executable),
    WireField.entry .password (.text p.password)]

/-! ## Reading -/

/-- The least index at which an item is neither true nor false, or else the flags. -/
def affinityOfItems (items : List Json) : Except Nat (List Bool) :=
  go 0 items
where
  /-- Read the items from an index on. -/
  go (index : Nat) : List Json → Except Nat (List Bool)
    | [] => .ok []
    | v :: rest =>
      match v.flag? with
      | none => .error index
      | some b => (go (index + 1) rest).map (b :: ·)

/-- Read the affinity. -/
def FieldSource.affinity (source : FieldSource) : Reading (List Bool) := do
  let items ← source.array .cpuAffinity
  match affinityOfItems items with
  | .ok flags => pure flags
  | .error index => .fault .cpuAffinity (.notFlag index) []

/-- Read a limit. -/
def FieldSource.limit (source : FieldSource) (field : WireField) : Reading (Option UInt64) := do
  let n ← source.natural field
  pure (limitOfWire n)

/-- Read the priority, which has 32 bits. -/
def FieldSource.priority (source : FieldSource) : Reading Int32 := do
  let n ← source.integer .priority
  if -2147483648 ≤ n ∧ n < 2147483648 then pure (Int32.ofInt n)
  else .fault .priority (.outOfRange n) 0

/-- Read the stream behavior. -/
def FieldSource.streams (source : FieldSource) : Reading StreamBehavior := do
  let n ← source.integer .streams
  match StreamBehavior.ofWire? n with
  | some b => pure b
  | none => .fault .streams (.outOfRange n) .inherit

/-- Read a context. -/
def SessionContext.reading (source : FieldSource) : Reading SessionContext := do
  let username ← source.text .username
  let project ← source.text .project
  let id ← source.text .id
  pure ⟨username, ⟨project, id⟩⟩

/-- Read the limits. -/
def ResourceLimits.reading (source : FieldSource) : Reading ResourceLimits := do
  let priority ← source.priority
  let memoryBytes ← source.limit .memoryBytes
  let stackBytes ← source.limit .stackBytes
  let userProcesses ← source.limit .userProcesses
  let cpuSeconds ← source.limit .cpuSeconds
  let nice ← source.limit .nice
  let openFiles ← source.limit .openFiles
  let cpuAffinity ← source.affinity
  pure ⟨priority, memoryBytes, stackBytes, userProcesses, cpuSeconds, nice, openFiles, cpuAffinity⟩

/-- Read the settings of a process. -/
def ProcessConfig.reading (source : FieldSource) : Reading ProcessConfig := do
  let args ← source.textArray .args
  let environment ← source.textObject .environment
  let stdInput ← source.text .stdInput
  let streams ← source.streams
  let limits ← ResourceLimits.reading source
  pure ⟨args, Environment.ofList environment, stdInput, streams, limits⟩

/-- Read a profile. -/
def LaunchProfile.reading (v : Json) : Reading LaunchProfile := do
  let source := v.members?
  let contextSource ← FieldSource.object source .context
  let password ← FieldSource.text source .password
  let encryptionKey ← FieldSource.text source .encryptionKey
  let executable ← FieldSource.text source .executable
  let configSource ← FieldSource.object source .config
  let context ← SessionContext.reading contextSource
  let config ← ProcessConfig.reading configSource
  pure ⟨context, password, encryptionKey, executable, config⟩

/-! ## Policies -/

/-- The record of a fault. -/
def FieldFault.record (f : FieldFault) : LogRecord :=
  ⟨.error, f.message⟩

/-- The outcome of a reading. -/
def DecodePolicy.conclude {α : Type} (policy : DecodePolicy) (r : Reading α) : Logged α :=
  match policy with
  | .strict =>
    match r.faults with
    | [] => ⟨.ok r.value, []⟩
    | f :: _ => ⟨.error (.field f), []⟩
  | .bestEffort => ⟨.ok r.value, r.faults.map FieldFault.record⟩

/-- The profile of a value under a policy. -/
def LaunchProfile.ofJson (policy : DecodePolicy) (v : Json) : Logged LaunchProfile :=
  policy.conclude (LaunchProfile.reading v)

/-- A profile for any value, with the records made: what the best-effort policy has, and the profile
of defaults where that has none. -/
def LaunchProfile.ofAnyJson (v : Json) : LaunchProfile × List LogRecord :=
  let r := LaunchProfile.ofJson .bestEffort v
  (r.result.toOption.getD { config := { environment := .ofList [] } }, r.log)

end SessionHandoff
