import Mathlib.Data.List.Sort
import SessionHandoff.Proofs.Limits.Plan
import SessionHandoff.Proofs.Text.Digits

/-!
# The set that an affinity becomes

What comes of an affinity depends on the processors that it names and on nothing else
(`processorsOfAffinity_congr`): not on its length, and not on flags that are not set. It is a set
exactly if there are such processors and all of them fit, and it is the set of these
(`processorsOfAffinity_eq_some_iff`). `affinity_becomes_set` puts this together with the two other
results, and says how many processors are in the set.
-/

set_option autoImplicit false

namespace SessionHandoff

/-- The processors are those that the affinity names, each of them once. -/
structure IsSetOf (affinity : List Bool) (cpus : List Nat) : Prop where
  mem_iff : ∀ cpu, cpu ∈ cpus ↔ NamesProcessor affinity cpu
  ascending : cpus.Pairwise (· < ·)

section Sets

variable {affinity other : List Bool} {cpus : List Nat} {e : LaunchError}

theorem isSetOf_setIndices (affinity : List Bool) : IsSetOf affinity (setIndices 0 affinity) where
  mem_iff _ := mem_setIndices_zero_iff
  ascending := ascending_setIndices 0 affinity

/-- Affinities that name the same processors have the same set. -/
theorem IsSetOf.eq_of_named {others : List Nat} (first : IsSetOf affinity cpus)
    (second : IsSetOf other others)
    (same : ∀ cpu, NamesProcessor affinity cpu ↔ NamesProcessor other cpu) : cpus = others := by
  apply first.ascending.eq_of_mem_iff second.ascending
  intro cpu
  rw [first.mem_iff, second.mem_iff, same]

theorem isSetOf_iff : IsSetOf affinity cpus ↔ cpus = setIndices 0 affinity := by
  constructor
  · intro set
    exact set.eq_of_named (isSetOf_setIndices affinity) fun _ => Iff.rfl
  · rintro rfl
    exact isSetOf_setIndices affinity

/-- There are as many processors as flags that are set. -/
theorem length_setIndices (start : Nat) (affinity : List Bool) :
    (setIndices start affinity).length = affinity.countP id := by
  induction affinity generalizing start with
  | nil => rfl
  | cons flag rest ih =>
    cases flag with
    | true => rw [setIndices, List.length_cons, ih, List.countP_cons_of_pos rfl]
    | false => rw [setIndices, ih, List.countP_cons_of_neg (by decide)]

theorem IsSetOf.length_eq {l : ResourceLimits} (set : IsSetOf l.cpuAffinity cpus) :
    cpus.length = l.affinityCount := by
  rw [isSetOf_iff.1 set, length_setIndices, ResourceLimits.affinityCount]

/-! ## What comes of an affinity -/

/-- Only the named processors count. -/
theorem processorsOfAffinity_congr
    (same : ∀ cpu, NamesProcessor affinity cpu ↔ NamesProcessor other cpu) :
    processorsOfAffinity affinity = processorsOfAffinity other := by
  have indices : setIndices 0 affinity = setIndices 0 other :=
    (isSetOf_setIndices affinity).eq_of_named (isSetOf_setIndices other) same
  have named : affinity.any id = other.any id := by
    rw [Bool.eq_iff_iff, any_id_iff, any_id_iff]
    exact exists_congr same
  rw [processorsOfAffinity, processorsOfAffinity, named, indices]

/-- Flags behind the last one name no processor as long as they are not set. -/
theorem namesProcessor_append_unset {count cpu : Nat} :
    NamesProcessor (affinity ++ List.replicate count false) cpu ↔ NamesProcessor affinity cpu := by
  unfold NamesProcessor
  by_cases inside : cpu < affinity.length
  · rw [List.getElem?_append_left inside]
  · -- behind the affinity there is a flag that is not set, or none at all
    have past : affinity.length ≤ cpu := Nat.le_of_not_lt inside
    rw [List.getElem?_append_right past, List.getElem?_eq_none past, List.getElem?_replicate]
    split
    · simp
    · simp

theorem processorsOfAffinity_append_unset (affinity : List Bool) (count : Nat) :
    processorsOfAffinity (affinity ++ List.replicate count false) =
      processorsOfAffinity affinity := by
  apply processorsOfAffinity_congr
  intro cpu
  exact namesProcessor_append_unset

/-- An affinity becomes a set exactly if it names processors and all of them fit. -/
theorem processorsOfAffinity_eq_some_iff :
    processorsOfAffinity affinity = .ok (some cpus) ↔
      (∃ cpu, NamesProcessor affinity cpu) ∧
        (∀ cpu, NamesProcessor affinity cpu → cpu < affinityCapacity) ∧ IsSetOf affinity cpus := by
  rw [processorsOfAffinity, ← any_id_iff, isSetOf_iff]
  split
  · next named =>
    simp only [map_eq_ok, collectProcessors_eq_ok_iff, mem_setIndices_zero_iff, Option.some.injEq,
      named, true_and]
    constructor
    · rintro ⟨_, ⟨rfl, fit⟩, rfl⟩
      exact ⟨fit, rfl⟩
    · rintro ⟨fit, rfl⟩
      exact ⟨_, ⟨rfl, fit⟩, rfl⟩
  · next unnamed => simp [unnamed]

/-- Of the named processors that do not fit one is the least. -/
theorem exists_isFirstBeyond_iff :
    (∃ cpu, IsFirstBeyond affinity cpu) ↔
      ∃ cpu, NamesProcessor affinity cpu ∧ affinityCapacity ≤ cpu := by
  constructor
  · rintro ⟨cpu, first⟩
    exact ⟨cpu, first.named, first.beyond⟩
  · intro beyond
    classical
    obtain ⟨named, large⟩ := Nat.find_spec beyond
    exact ⟨Nat.find beyond, named, large, fun other named large =>
      Nat.find_min' beyond ⟨named, large⟩⟩

theorem exists_named_iff : (∃ cpu, NamesProcessor affinity cpu) ↔ true ∈ affinity := by
  rw [List.mem_iff_getElem?]
  rfl

end Sets

/-! ## The processor that does not fit -/

/-- What is said of a processor that does not fit. -/
def outOfRangeText (cpu : Nat) : String :=
  "Configuration error: CPU " ++ Text.decimalString cpu ++
    " outside supported affinity range (1024): EINVAL: Invalid argument"

theorem outOfRangeText_inj {cpu other : Nat} (same : outOfRangeText cpu = outOfRangeText other) :
    cpu = other :=
  Text.decimalString_append_inj same

theorem message_processorOutOfRange (cpu : Nat) :
    (LaunchError.config (.processorOutOfRange cpu)).message = outOfRangeText cpu := by
  have regroup (a b c d e f g : String) :
      a ++ (b ++ c ++ d ++ e ++ f ++ g) = a ++ b ++ c ++ (d ++ e ++ f ++ g) := by
    simp only [String.append_assoc]
  have front : "Configuration error: " ++ "CPU " = "Configuration error: CPU " := by decide
  have back : " outside supported affinity range (" ++ Text.decimalString affinityCapacity ++
      "): " ++ Errno.invalidArgument.withSymbol =
      " outside supported affinity range (1024): EINVAL: Invalid argument" := by decide +kernel
  exact (regroup _ _ _ _ _ _ _).trans
    (congrArg₂ (fun front back => front ++ Text.decimalString cpu ++ back) front back)

/-- An error says of a processor that it does not fit exactly if it is the first of these. -/
theorem exists_outOfRangeText_iff {affinity : List Bool} {cpu : Nat} :
    (∃ e, processorsOfAffinity affinity = .error e ∧ e.message = outOfRangeText cpu) ↔
      IsFirstBeyond affinity cpu := by
  constructor
  · rintro ⟨e, refused, said⟩
    obtain ⟨other, rfl, first⟩ := processorsOfAffinity_eq_error_iff.1 refused
    rw [message_processorOutOfRange] at said
    rw [← outOfRangeText_inj said]
    exact first
  · intro first
    exact ⟨_, processorsOfAffinity_eq_error_iff.2 ⟨cpu, rfl, first⟩,
      message_processorOutOfRange cpu⟩

/-- **An affinity becomes the set of the processors that it names.** For every row of flags: nothing
is asked for exactly if no flag is set. There is an error exactly if a flag is set beyond the
processors that fit, whatever stands before it, and the error is a fault of the configuration whose
text tells the least of these. There is a set exactly if a flag is set and none beyond them. A
processor is in it exactly if its flag is there and set, and there are as many as the limits with
this affinity count. Flags that are not set can be added at the end without changing anything. -/
theorem affinity_becomes_set (affinity : List Bool) :
    (processorsOfAffinity affinity = .ok none ↔ true ∉ affinity) ∧
    (∀ e, processorsOfAffinity affinity = .error e ↔
      ∃ cpu, e = .config (.processorOutOfRange cpu) ∧ IsFirstBeyond affinity cpu) ∧
    ((∃ e, processorsOfAffinity affinity = .error e) ↔
      ∃ cpu, NamesProcessor affinity cpu ∧ affinityCapacity ≤ cpu) ∧
    (∀ cpu, (∃ e, processorsOfAffinity affinity = .error e ∧ e.message = outOfRangeText cpu) ↔
      IsFirstBeyond affinity cpu) ∧
    ((∃ cpus, processorsOfAffinity affinity = .ok (some cpus)) ↔
      true ∈ affinity ∧ ∀ cpu, NamesProcessor affinity cpu → cpu < affinityCapacity) ∧
    (∀ cpus, processorsOfAffinity affinity = .ok (some cpus) →
      (∀ cpu, cpu ∈ cpus ↔ NamesProcessor affinity cpu) ∧ cpus.Nodup ∧
        ∀ l : ResourceLimits, l.cpuAffinity = affinity → cpus.length = l.affinityCount) ∧
    (∀ count, processorsOfAffinity (affinity ++ List.replicate count false) =
      processorsOfAffinity affinity) := by
  refine ⟨?_, fun e => processorsOfAffinity_eq_error_iff, ?_,
    fun cpu => exists_outOfRangeText_iff, ?_, ?_, processorsOfAffinity_append_unset affinity⟩
  · rw [processorsOfAffinity_eq_none_iff, ← not_exists, exists_named_iff]
  · rw [← exists_isFirstBeyond_iff]
    constructor
    · rintro ⟨e, refused⟩
      obtain ⟨cpu, -, first⟩ := processorsOfAffinity_eq_error_iff.1 refused
      exact ⟨cpu, first⟩
    · rintro ⟨cpu, first⟩
      exact ⟨_, processorsOfAffinity_eq_error_iff.2 ⟨cpu, rfl, first⟩⟩
  · constructor
    · rintro ⟨cpus, made⟩
      obtain ⟨named, fit, -⟩ := processorsOfAffinity_eq_some_iff.1 made
      exact ⟨exists_named_iff.1 named, fit⟩
    · rintro ⟨named, fit⟩
      exact ⟨_, processorsOfAffinity_eq_some_iff.2
        ⟨exists_named_iff.2 named, fit, isSetOf_setIndices affinity⟩⟩
  · intro cpus made
    obtain ⟨-, -, set⟩ := processorsOfAffinity_eq_some_iff.1 made
    refine ⟨set.mem_iff, set.ascending.imp Nat.ne_of_lt, ?_⟩
    rintro l rfl
    exact set.length_eq

example : processorsOfAffinity [false, true, false, true] = .ok (some [1, 3]) := rfl

end SessionHandoff
