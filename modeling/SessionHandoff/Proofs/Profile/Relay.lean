import SessionHandoff.Proofs.Profile.Schema
import SessionHandoff.Proofs.Profile.Transfer

/-!
# Relaying a profile that was received

A profile is read from any value and sent on. What its next reader has is the profile with its
limits as a reader of written profiles sees them, so the relay loses nothing exactly if the limits
were in that form when they were read. They need not be: a written limit is at most
`maxWireLimit`, and a limit that is read is any unsigned number that the value holds
(`ResourceLimits.reading_wireNormalized_iff`). `LaunchProfile.relay_lossless_iff` puts the two
together.
-/

set_option autoImplicit false

namespace SessionHandoff

/-! ## Limits that readers see as they are -/

/-- The limit that a written number stands for is one that a reader sees as it is, exactly if the
number is small enough to be written. -/
theorem wireLimit_limitOfWire_iff {n : UInt64} :
    wireLimit (limitOfWire n) = limitOfWire n ↔ n ≤ maxWireLimit := by
  unfold limitOfWire
  by_cases zero : n = 0
  · subst zero
    exact ⟨fun _ => by decide, fun _ => rfl⟩
  · have positive : 1 ≤ n := by
      rw [UInt64.le_iff_toNat_le]
      have one : (1 : UInt64).toNat = 1 := rfl
      have nonzero : n.toNat ≠ 0 := fun h => zero (UInt64.toNat_inj.1 h)
      omega
    rw [if_neg zero, wireLimit, Option.filter_eq_some_iff]
    simp [positive]

namespace ResourceLimits

theorem wireNormalized_eq_self_iff {l : ResourceLimits} :
    l.wireNormalized = l ↔ ∀ limit ∈ l.six, wireLimit limit = limit := by
  obtain ⟨priority, memoryBytes, stackBytes, userProcesses, cpuSeconds, nice, openFiles,
    cpuAffinity⟩ := l
  simp [wireNormalized, six]

end ResourceLimits

/-- The six limits among the fields. -/
def WireField.limits : List WireField :=
  [.memoryBytes, .stackBytes, .userProcesses, .cpuSeconds, .nice, .openFiles]

theorem WireField.mem_limits {field : WireField} : field ∈ limits ↔ field.kind = .limit := by
  cases field <;> decide

/-- No limit in a value is an unsigned number too great to be written. -/
def Json.LimitsFit (v : Json) : Prop :=
  ∀ field : WireField, field.kind = .limit → ∀ n, field.content? v = some (.number n) →
    ∀ k, n.unsigned? = some k → k ≤ maxWireLimit

namespace FieldSource

variable {source : FieldSource} {field : WireField}

/-- Where no unsigned number is read zero stands in. -/
theorem value_natural :
    (source.natural field).value =
      ((source.get? field).bind fun v => v.number?.bind Json.Number.unsigned?).getD 0 := by
  unfold natural read
  cases source.get? field with
  | none => rfl
  | some v =>
    simp only [Option.bind_some]
    cases v.number?.bind Json.Number.unsigned? with
    | none => rfl
    | some k => rfl

/-- What is read of a limit is small enough to be written exactly if the limit holds no greater
number. -/
theorem natural_le_iff :
    (source.natural field).value ≤ maxWireLimit ↔
      ∀ n, source.get? field = some (.number n) → ∀ k, n.unsigned? = some k →
        k ≤ maxWireLimit := by
  rw [value_natural]
  have zero : (0 : UInt64) ≤ maxWireLimit := by decide
  cases source.get? field with
  | none => simp [zero]
  | some v =>
    cases v with
    | number n =>
      cases read : n.unsigned? with
      | none => simp [Json.number?, read, zero]
      | some k => simp [Json.number?, read]
    | null | flag b | text s | array items | object members => simp [Json.number?, zero]

end FieldSource

/-- The limits of a value are read as readers of written profiles see them, exactly if none of them
is too great to be written. -/
theorem ResourceLimits.reading_wireNormalized_iff (v : Json) :
    (reading (Scope.config.source v)).value.wireNormalized =
      (reading (Scope.config.source v)).value ↔ v.LimitsFit := by
  have six : (reading (Scope.config.source v)).value.six =
      WireField.limits.map fun field => limitOfWire ((Scope.config.source v).natural field).value :=
    rfl
  have inside (field : WireField) (limit : field.kind = .limit) : field.scope = .config := by
    revert limit
    cases field <;> decide
  rw [wireNormalized_eq_self_iff, six, List.forall_mem_map]
  constructor
  · intro fixed field limit n held
    have small := wireLimit_limitOfWire_iff.1 (fixed field (WireField.mem_limits.2 limit))
    rw [WireField.content?, inside field limit] at held
    exact FieldSource.natural_le_iff.1 small n held
  · intro fit field member
    have limit := WireField.mem_limits.1 member
    refine wireLimit_limitOfWire_iff.2 (FieldSource.natural_le_iff.2 fun n held => ?_)
    refine fit field limit n ?_
    rw [WireField.content?, inside field limit]
    exact held

/-! ## The relay -/

namespace LaunchProfile

theorem wireNormalized_eq_self_iff {p : LaunchProfile} :
    p.wireNormalized = p ↔ p.config.limits.wireNormalized = p.config.limits := by
  constructor
  · intro same
    exact congrArg (·.config.limits) same
  · intro same
    rw [wireNormalized, same]

/-- What is read of any value has its limits as readers of written profiles see them, exactly if
none of the limits in the value is too great to be written. -/
theorem ofAnyJson_wireNormalized_iff (v : Json) :
    (ofAnyJson v).1.wireNormalized = (ofAnyJson v).1 ↔ v.LimitsFit := by
  have limits : (ofAnyJson v).1.config.limits =
      (ResourceLimits.reading (Scope.config.source v)).value := by
    show (reading v).value.config.limits = _
    rw [value_reading]
    rfl
  rw [wireNormalized_eq_self_iff, limits]
  exact ResourceLimits.reading_wireNormalized_iff v

/-- **Relaying a received profile loses nothing but limits too great to be written.** A profile read
from any value that carries no password can be sent on: a sink with room takes it, and what a source
gives of it is read under both policies without a record. It is read as the profile that was sent on
exactly if no limit in the value was greater than `maxWireLimit`, and that is so exactly if the
limits were read in the form that readers of written profiles see. -/
theorem relay_lossless_iff (v : Json) (noPassword : (ofAnyJson v).1.password = "")
    (policy : DecodePolicy) :
    (∀ sink : ByteSink, sink.HasRoom (ofAnyJson v).1.toBytes.length →
      ((ofAnyJson v).1.write sink).result = .ok ()) ∧
    (∀ (sink : ByteSink) (source : ByteSource), ((ofAnyJson v).1.write sink).result = .ok () →
      source.readToEnd = .ok ((ofAnyJson v).1.write sink).arrived →
      readProfile policy source = ⟨.ok (ofAnyJson v).1.wireNormalized, []⟩ ∧
      (readProfile policy source = ⟨.ok (ofAnyJson v).1, []⟩ ↔ v.LimitsFit)) ∧
    ((ofAnyJson v).1.config.limits.wireNormalized = (ofAnyJson v).1.config.limits ↔
      v.LimitsFit) := by
  have fit := ofAnyJson_wireNormalized_iff v
  refine ⟨fun sink room => write_of_room noPassword room, fun sink source written given => ?_,
    wireNormalized_eq_self_iff.symm.trans fit⟩
  have read := readProfile_of_arrived noPassword written given policy
  refine ⟨read, ?_⟩
  rw [read, ← fit]
  constructor
  · intro same
    exact Except.ok.inj (congrArg Logged.result same)
  · intro same
    rw [same]

/-- A value with one limit, written as an integer. -/
def jsonOfMemory (n : UInt64) : Json :=
  .object [("config", .object [("memoryLimitBytes", .ofUInt64 n)])]

/-- The greatest limit that is written as itself survives the relay. -/
theorem relay_lossless_iff_greatest :
    let v := jsonOfMemory maxWireLimit
    let p := (ofAnyJson v).1
    p.password = "" ∧ p.config.limits.memoryBytes = some maxWireLimit ∧
      readProfile .bestEffort (.ofBytes (p.write {}).arrived) = ⟨.ok p, []⟩ := by
  intro v p
  have noPassword : p.password = "" := rfl
  have limit : p.config.limits.memoryBytes = some maxWireLimit := by decide +kernel
  have normal : p.config.limits.wireNormalized = p.config.limits := by decide +kernel
  obtain ⟨taken, given, fit⟩ := relay_lossless_iff v noPassword .bestEffort
  have written := taken {} (ByteSink.hasRoom_of_unbounded rfl rfl _)
  have source : (ByteSource.ofBytes (p.write {}).arrived).readToEnd = .ok (p.write {}).arrived := by
    simp [ByteSource.ofBytes, ByteSource.readToEnd]
  exact ⟨noPassword, limit, (given {} _ written source).2.2 (fit.1 normal)⟩

/-- A limit of 2^53 is read, and is lost when the profile is sent on. -/
theorem relay_loses_great_limit :
    let v := jsonOfMemory 9007199254740992
    let p := (ofAnyJson v).1
    p.password = "" ∧ p.config.limits.memoryBytes = some 9007199254740992 ∧
      p.config.limits.wireNormalized ≠ p.config.limits ∧
      ∃ q : LaunchProfile, q.config.limits.memoryBytes = none ∧ q ≠ p ∧
        ∀ policy, readProfile policy (.ofBytes (p.write {}).arrived) = ⟨.ok q, []⟩ := by
  intro v p
  have noPassword : p.password = "" := rfl
  have limit : p.config.limits.memoryBytes = some 9007199254740992 := by decide +kernel
  have lost : p.wireNormalized.config.limits.memoryBytes = none := by decide +kernel
  have changed : p.wireNormalized ≠ p := by
    intro same
    rw [same, limit] at lost
    cases lost
  have written := write_of_room noPassword (@ByteSink.hasRoom_of_unbounded {} rfl rfl _)
  have source : (ByteSource.ofBytes (p.write {}).arrived).readToEnd = .ok (p.write {}).arrived := by
    simp [ByteSource.ofBytes, ByteSource.readToEnd]
  exact ⟨noPassword, limit, mt wireNormalized_eq_self_iff.2 changed, p.wireNormalized, lost,
    changed, fun policy => readProfile_of_arrived noPassword written source policy⟩

end LaunchProfile

end SessionHandoff
