import SessionHandoff.Limits.Plan
import SessionHandoff.Proofs.Outcome

/-!
# What the plan of limits holds

An affinity is a row of flags, and a plan names the processors whose flags are set. They are put
into a set of the kernel in ascending order, so the first that does not fit is the least
(`processorsOfAffinity_eq_error_iff`), and it is the only reason for limits to have no plan
(`LimitPlan.ofLimits_eq_error_iff`). A plan asks for nothing exactly if no limit is set to a number
other than zero, the priority is zero and no processor is named (`LimitPlan.isEmpty_iff`).
-/

set_option autoImplicit false

namespace SessionHandoff

/-! ## Processors -/

/-- The affinity names a processor: its flag is there and set. -/
def NamesProcessor (affinity : List Bool) (cpu : Nat) : Prop :=
  affinity[cpu]? = some true

/-- The least of the named processors that the kernel cannot name. -/
structure IsFirstBeyond (affinity : List Bool) (cpu : Nat) : Prop where
  named : NamesProcessor affinity cpu
  beyond : affinityCapacity ≤ cpu
  least : ∀ other, NamesProcessor affinity other → affinityCapacity ≤ other → cpu ≤ other

theorem IsFirstBeyond.unique {affinity : List Bool} {cpu other : Nat}
    (first : IsFirstBeyond affinity cpu) (second : IsFirstBeyond affinity other) : cpu = other :=
  Nat.le_antisymm (first.least other second.named second.beyond)
    (second.least cpu first.named first.beyond)

section Processors

variable {affinity : List Bool} {cpus : List Nat} {e : LaunchError}

theorem mem_setIndices_iff {start cpu : Nat} :
    cpu ∈ setIndices start affinity ↔ ∃ i, NamesProcessor affinity i ∧ cpu = start + i := by
  unfold NamesProcessor
  induction affinity generalizing start with
  | nil => simp [setIndices]
  | cons flag rest ih =>
    -- the first flag stands at `start`, and the others are counted from the next number on
    cases flag with
    | true =>
      rw [setIndices, List.mem_cons, ih]
      constructor
      · rintro (rfl | ⟨i, named, rfl⟩)
        · exact ⟨0, rfl, rfl⟩
        · exact ⟨i + 1, named, by omega⟩
      · rintro ⟨i, named, rfl⟩
        cases i with
        | zero => exact .inl rfl
        | succ i => exact .inr ⟨i, named, by omega⟩
    | false =>
      rw [setIndices, ih]
      constructor
      · rintro ⟨i, named, rfl⟩
        exact ⟨i + 1, named, by omega⟩
      · rintro ⟨i, named, rfl⟩
        cases i with
        | zero => cases named
        | succ i => exact ⟨i, named, by omega⟩

/-- The processors that an affinity names are those of its set flags. -/
theorem mem_setIndices_zero_iff {cpu : Nat} :
    cpu ∈ setIndices 0 affinity ↔ NamesProcessor affinity cpu := by
  simp [mem_setIndices_iff]

theorem ascending_setIndices (start : Nat) (affinity : List Bool) :
    (setIndices start affinity).Pairwise (· < ·) := by
  induction affinity generalizing start with
  | nil => exact .nil
  | cons flag rest ih =>
    cases flag with
    | true =>
      refine List.pairwise_cons.2 ⟨fun cpu inside => ?_, ih (start + 1)⟩
      obtain ⟨i, -, rfl⟩ := mem_setIndices_iff.1 inside
      omega
    | false => exact ih (start + 1)

/-- Of processors that ascend, the first that does not fit is the least. -/
theorem collectProcessors_eq_error_iff (ascending : cpus.Pairwise (· < ·)) :
    collectProcessors cpus = .error e ↔
      ∃ cpu ∈ cpus, e = .config (.processorOutOfRange cpu) ∧ affinityCapacity ≤ cpu ∧
        ∀ other ∈ cpus, affinityCapacity ≤ other → cpu ≤ other := by
  induction cpus with
  | nil => simp [collectProcessors]
  | cons cpu rest ih =>
    obtain ⟨below, ascending⟩ := List.pairwise_cons.1 ascending
    rw [collectProcessors]
    split
    · next fits =>
        rw [map_eq_error, ih ascending]
        constructor
        · rintro ⟨first, inside, rfl, beyond, least⟩
          refine ⟨first, List.mem_cons_of_mem _ inside, rfl, beyond, ?_⟩
          intro other among outside
          rcases List.mem_cons.1 among with rfl | later
          · omega
          · exact least other later outside
        · rintro ⟨first, inside, rfl, beyond, least⟩
          rcases List.mem_cons.1 inside with rfl | inside
          · omega
          · exact ⟨first, inside, rfl, beyond, fun other later =>
              least other (List.mem_cons_of_mem _ later)⟩
    · next large =>
        constructor
        · rintro ⟨⟩
          refine ⟨cpu, List.mem_cons_self, rfl, by omega, ?_⟩
          intro other among outside
          rcases List.mem_cons.1 among with rfl | later
          · exact Nat.le_refl _
          · exact Nat.le_of_lt (below other later)
        · rintro ⟨first, inside, rfl, -, least⟩
          -- nothing in the list is below its head
          have small : first ≤ cpu := least cpu List.mem_cons_self (by omega)
          rcases List.mem_cons.1 inside with rfl | later
          · rfl
          · exact absurd (below first later) (by omega)

/-- Processors make up a set exactly if all of them fit, and it is the set of these. -/
theorem collectProcessors_eq_ok_iff {set : List Nat} :
    collectProcessors cpus = .ok set ↔ set = cpus ∧ ∀ cpu ∈ cpus, cpu < affinityCapacity := by
  induction cpus generalizing set with
  | nil => simp [collectProcessors, eq_comm]
  | cons cpu rest ih =>
    rw [collectProcessors, List.forall_mem_cons]
    split
    · next fits =>
        rw [map_eq_ok]
        constructor
        · rintro ⟨others, collected, rfl⟩
          obtain ⟨rfl, fit⟩ := ih.1 collected
          exact ⟨rfl, fits, fit⟩
        · rintro ⟨rfl, -, fit⟩
          exact ⟨rest, ih.2 ⟨rfl, fit⟩, rfl⟩
    · next large =>
        constructor
        · rintro ⟨⟩
        · rintro ⟨-, fits, -⟩
          exact absurd fits large

theorem any_id_iff : affinity.any id = true ↔ ∃ cpu, NamesProcessor affinity cpu := by
  simp [NamesProcessor, List.any_eq_true, List.mem_iff_getElem?]

/-- An affinity has no set exactly if it names a processor beyond those that fit, and the error
tells the least of these. -/
theorem processorsOfAffinity_eq_error_iff :
    processorsOfAffinity affinity = .error e ↔
      ∃ cpu, e = .config (.processorOutOfRange cpu) ∧ IsFirstBeyond affinity cpu := by
  have refused : collectProcessors (setIndices 0 affinity) = .error e ↔
      ∃ cpu, e = .config (.processorOutOfRange cpu) ∧ IsFirstBeyond affinity cpu := by
    rw [collectProcessors_eq_error_iff (ascending_setIndices 0 affinity)]
    simp only [mem_setIndices_zero_iff]
    constructor
    · rintro ⟨cpu, named, rfl, beyond, least⟩
      exact ⟨cpu, rfl, named, beyond, least⟩
    · rintro ⟨cpu, rfl, named, beyond, least⟩
      exact ⟨cpu, named, rfl, beyond, least⟩
  unfold processorsOfAffinity
  split
  · rw [map_eq_error, refused]
  · next unnamed =>
      -- where no processor is named none is beyond
      rw [any_id_iff] at unnamed
      constructor
      · rintro ⟨⟩
      · rintro ⟨cpu, -, first⟩
        exact absurd ⟨cpu, first.named⟩ unnamed

/-- Nothing is asked for exactly if no processor is named. -/
theorem processorsOfAffinity_eq_none_iff :
    processorsOfAffinity affinity = .ok none ↔ ∀ cpu, ¬ NamesProcessor affinity cpu := by
  unfold processorsOfAffinity
  rw [← not_exists, ← any_id_iff]
  split
  · next named =>
      simp only [named, not_true_eq_false, iff_false, map_eq_ok]
      rintro ⟨_, _, ⟨⟩⟩
  · next unnamed => simp [unnamed]

/-- All processors fit that an affinity with a set, or with nothing asked for, names. -/
theorem lt_affinityCapacity_of_named {processors : Option (List Nat)} {cpu : Nat}
    (set : processorsOfAffinity affinity = .ok processors) (named : NamesProcessor affinity cpu) :
    cpu < affinityCapacity := by
  rw [processorsOfAffinity, if_pos (any_id_iff.2 ⟨cpu, named⟩)] at set
  obtain ⟨cpus, collected, -⟩ := map_eq_ok.1 set
  exact (collectProcessors_eq_ok_iff.1 collected).2 cpu (mem_setIndices_zero_iff.2 named)

end Processors

/-! ## Plans -/

/-- The limits ask for something: for a resource, for a priority or for processors. -/
def ResourceLimits.Asks (l : ResourceLimits) : Prop :=
  (∃ n, some n ∈ l.six ∧ n ≠ 0) ∨ l.priority ≠ 0 ∨ ∃ cpu, NamesProcessor l.cpuAffinity cpu

namespace LimitPlan

/-- The six limits with the resources that they limit. -/
def candidates (l : ResourceLimits) : List (Resource × Option UInt64) :=
  [(.addressSpace, l.memoryBytes), (.stack, l.stackBytes), (.processes, l.userProcesses),
    (.cpuTime, l.cpuSeconds), (.nice, l.nice), (.openFiles, l.openFiles)]

theorem map_snd_candidates (l : ResourceLimits) : (candidates l).map Prod.snd = l.six := rfl

/-- The resource limits that are asked for. -/
def wantedOf (l : ResourceLimits) : List (Resource × UInt64) :=
  (candidates l).filterMap fun c => wanted c.1 c.2

theorem ofLimits_eq (l : ResourceLimits) :
    ofLimits l = (processorsOfAffinity l.cpuAffinity).map (LimitPlan.mk (wantedOf l) l.priority) :=
  rfl

variable {l : ResourceLimits} {plan : LimitPlan} {e : LaunchError}

theorem wanted_eq_some_iff {resource r : Resource} {limit : Option UInt64} {n : UInt64} :
    wanted resource limit = some (r, n) ↔ r = resource ∧ limit = some n ∧ n ≠ 0 := by
  simp only [wanted, Option.map_eq_some_iff, Option.filter_eq_some_iff, Prod.mk.injEq,
    decide_eq_true_eq]
  constructor
  · rintro ⟨_, ⟨set, nonzero⟩, rfl, rfl⟩
    exact ⟨rfl, set, nonzero⟩
  · rintro ⟨rfl, set, nonzero⟩
    exact ⟨n, ⟨set, nonzero⟩, rfl, rfl⟩

/-- Some resource is to be limited by a number exactly if one of the six limits is that number and
it is not zero. -/
theorem exists_mem_wantedOf_iff {n : UInt64} :
    (∃ r, (r, n) ∈ wantedOf l) ↔ some n ∈ l.six ∧ n ≠ 0 := by
  simp only [wantedOf, List.mem_filterMap, wanted_eq_some_iff, ← map_snd_candidates, List.mem_map]
  constructor
  · rintro ⟨_, c, inside, rfl, set, nonzero⟩
    exact ⟨⟨c, inside, set⟩, nonzero⟩
  · rintro ⟨⟨c, inside, set⟩, nonzero⟩
    exact ⟨c.1, c, inside, rfl, set, nonzero⟩

theorem wantedOf_eq_nil_iff : wantedOf l = [] ↔ ¬ ∃ n, some n ∈ l.six ∧ n ≠ 0 := by
  rw [List.eq_nil_iff_forall_not_mem]
  constructor
  · rintro none ⟨n, wanted⟩
    obtain ⟨r, inside⟩ := exists_mem_wantedOf_iff.2 wanted
    exact none (r, n) inside
  · rintro none ⟨r, n⟩ inside
    exact none ⟨n, exists_mem_wantedOf_iff.1 ⟨r, inside⟩⟩

/-- Limits have no plan exactly if their affinity has no set. -/
theorem ofLimits_eq_error_iff :
    ofLimits l = .error e ↔
      ∃ cpu, e = .config (.processorOutOfRange cpu) ∧ IsFirstBeyond l.cpuAffinity cpu := by
  rw [ofLimits_eq, map_eq_error, processorsOfAffinity_eq_error_iff]

/-- A plan is empty exactly if its limits ask for nothing. -/
theorem isEmpty_iff (made : ofLimits l = .ok plan) : plan.isEmpty = true ↔ ¬ l.Asks := by
  rw [ofLimits_eq] at made
  obtain ⟨processors, set, rfl⟩ := map_eq_ok.1 made
  have unnamed : processors = none ↔ ¬ ∃ cpu, NamesProcessor l.cpuAffinity cpu := by
    rw [not_exists, ← processorsOfAffinity_eq_none_iff, set, Except.ok.injEq]
  simp only [isEmpty, Bool.and_eq_true, List.isEmpty_iff, wantedOf_eq_nil_iff, beq_iff_eq,
    Option.isNone_iff_eq_none, unnamed, ResourceLimits.Asks, not_or, ne_eq, Decidable.not_not,
    and_assoc]

end LimitPlan

end SessionHandoff
