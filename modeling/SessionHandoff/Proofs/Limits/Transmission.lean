import Mathlib.Data.List.Basic
import SessionHandoff.Limits.Kernel
import SessionHandoff.Proofs.Limits.Plan
import SessionHandoff.Proofs.Profile.Transfer

/-!
# Limits that were sent are applied as they were

The reader of a written profile has a limit of zero unset, and a limit that is too great to be
written as well. A plan passes over limits that are unset and limits of zero alike, so the plan of
the limits that were read is that of the limits that were written, unless one of them was too great
(`LimitPlan.ofLimits_wireNormalized_iff`). Priority and affinity arrive as they are, and with them
the one reason for which there is no plan. `LimitPlan.plan_survives_transfer` says so of limits on
their way through a profile.
-/

set_option autoImplicit false

namespace SessionHandoff

/-! ## Limits that can be written -/

/-- No limit that is set is too great to be written. -/
def ResourceLimits.FitsWire (l : ResourceLimits) : Prop :=
  ∀ n, some n ∈ l.six → n ≤ maxWireLimit

theorem wireLimit_eq_some_iff {limit : Option UInt64} {n : UInt64} :
    wireLimit limit = some n ↔ limit = some n ∧ n ≠ 0 ∧ n ≤ maxWireLimit := by
  have positive : 1 ≤ n ↔ n ≠ 0 := by
    rw [UInt64.le_iff_toNat_le, ne_eq, ← UInt64.toNat_inj]
    show 1 ≤ n.toNat ↔ ¬ n.toNat = 0
    omega
  rw [wireLimit, Option.filter_eq_some_iff, Bool.and_eq_true, decide_eq_true_eq, decide_eq_true_eq,
    positive]

theorem ResourceLimits.six_wireNormalized (l : ResourceLimits) :
    l.wireNormalized.six = l.six.map wireLimit := rfl

namespace LimitPlan

variable {l : ResourceLimits}

/-! ## Plans before and after -/

/-- What a limit asks for does not change on the way, if it can be written. -/
theorem wanted_wireLimit (resource : Resource) {limit : Option UInt64}
    (fits : ∀ n, limit = some n → n ≤ maxWireLimit) :
    wanted resource (wireLimit limit) = wanted resource limit := by
  refine Option.ext fun c => ?_
  obtain ⟨r, n⟩ := c
  rw [wanted_eq_some_iff, wanted_eq_some_iff, wireLimit_eq_some_iff]
  constructor
  · rintro ⟨same, ⟨set, nonzero, -⟩, -⟩
    exact ⟨same, set, nonzero⟩
  · rintro ⟨same, set, nonzero⟩
    exact ⟨same, ⟨set, nonzero, fits n set⟩, nonzero⟩

theorem candidates_wireNormalized (l : ResourceLimits) :
    candidates l.wireNormalized = (candidates l).map fun c => (c.1, wireLimit c.2) := rfl

/-- The same resources are limited by the same numbers exactly if all of these can be written. -/
theorem wantedOf_wireNormalized_iff : wantedOf l.wireNormalized = wantedOf l ↔ l.FitsWire := by
  constructor
  · intro same n set
    by_cases zero : n = 0
    · rw [zero]
      decide
    · -- the number is asked for, so it is also asked for by the limits that were read
      obtain ⟨r, inside⟩ := exists_mem_wantedOf_iff.2 ⟨set, zero⟩
      rw [← same] at inside
      obtain ⟨read, -⟩ := exists_mem_wantedOf_iff.1 ⟨r, inside⟩
      rw [ResourceLimits.six_wireNormalized] at read
      obtain ⟨limit, -, read⟩ := List.mem_map.1 read
      exact (wireLimit_eq_some_iff.1 read).2.2
  · intro fits
    rw [wantedOf, candidates_wireNormalized, List.filterMap_map]
    refine List.filterMap_congr fun c inside => wanted_wireLimit c.1 fun n set => fits n ?_
    rw [← map_snd_candidates, List.mem_map]
    exact ⟨c, inside, set⟩

/-- The limits that a reader sees have the same plan, or none for the same reason, exactly if all
limits can be written or the affinity has no set. -/
theorem ofLimits_wireNormalized_iff :
    ofLimits l.wireNormalized = ofLimits l ↔ l.FitsWire ∨ ∃ e, ofLimits l = .error e := by
  have affinity : l.wireNormalized.cpuAffinity = l.cpuAffinity := rfl
  rw [ofLimits_eq, ofLimits_eq, affinity, ← wantedOf_wireNormalized_iff]
  cases processorsOfAffinity l.cpuAffinity with
  | error e => exact ⟨fun _ => .inr ⟨e, rfl⟩, fun _ => rfl⟩
  | ok processors =>
    constructor
    · intro same
      exact .inl (congrArg LimitPlan.resources (Except.ok.inj same))
    · rintro (same | ⟨e, refused⟩)
      · rw [same]
        rfl
      · cases refused

/-- **A transfer does not change what is applied.** For the limits of every profile: the reader of
the written form of its settings finds no fault in the limits, and under both policies the profile
that is read from the written bytes has the limits that this reader has. Their plan is the plan of
the limits that were written, with the same resources, numbers, order, priority and processors, or
there is none for the same reason, exactly if every limit that is set can be written or there is no
plan at all. Where every limit can be written, applying the limits that were read comes to the same
as applying those that were written, for every kernel. -/
theorem plan_survives_transfer (p : LaunchProfile) :
    let l := p.config.limits
    let received := ResourceLimits.reading p.config.toJson.members?
    received.faults = [] ∧
    (∀ policy, ∃ q, LaunchProfile.ofBytes policy p.toBytes = ⟨.ok q, []⟩ ∧
      q.config.limits = received.value) ∧
    (ofLimits received.value = ofLimits l ↔ l.FitsWire ∨ ∃ e, ofLimits l = .error e) ∧
    (l.FitsWire → ∀ (σ : Type) (kernel : Kernel σ) (strict : Bool) (run : KernelRun σ),
      applyLimits kernel strict received.value run = applyLimits kernel strict l run) := by
  intro l received
  have read : received = pure l.wireNormalized := ResourceLimits.reading_toJson p.config
  rw [read]
  refine ⟨rfl, fun policy => ⟨p.wireNormalized, LaunchProfile.ofBytes_toBytes policy p, rfl⟩,
    ofLimits_wireNormalized_iff, ?_⟩
  intro fits σ kernel strict run
  have same : ofLimits l.wireNormalized = ofLimits l := ofLimits_wireNormalized_iff.2 (.inl fits)
  show applyLimits kernel strict l.wireNormalized run = applyLimits kernel strict l run
  rw [applyLimits, same, applyLimits]

/-- A limit of zero and the greatest limit that is written as itself: the limits change on the way,
and neither their plan nor what is applied does. -/
theorem plan_survives_transfer_zero_and_greatest :
    let l : ResourceLimits :=
      { priority := -20, memoryBytes := some maxWireLimit, nice := some 0
        cpuAffinity := [false, true] }
    let p : LaunchProfile := { config := { environment := .ofList [], limits := l } }
    let received := (ResourceLimits.reading p.config.toJson.members?).value
    l.FitsWire ∧ received ≠ l ∧
      ofLimits received = .ok ⟨[(.addressSpace, maxWireLimit)], -20, some [1]⟩ ∧
      applyLimits Kernel.linux true received ⟨{}, []⟩ =
        applyLimits Kernel.linux true l ⟨{}, []⟩ := by
  intro l p received
  have fits : l.FitsWire := by
    intro n set
    have either : n = maxWireLimit ∨ n = 0 := by simpa [l, ResourceLimits.six] using set
    rcases either with rfl | rfl
    · decide
    · decide
  obtain ⟨-, -, same, applied⟩ := plan_survives_transfer p
  have plan : ofLimits received = ofLimits l := same.2 (.inl fits)
  refine ⟨fits, by decide +kernel, ?_, applied fits _ Kernel.linux true ⟨{}, []⟩⟩
  rw [plan]
  rfl

end LimitPlan

end SessionHandoff
