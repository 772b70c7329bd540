import SessionHandoff.Proofs.Json.Number
import SessionHandoff.Proofs.Profile.Wire

/-!
# Which numbers are read exactly

What a number is read as is decided by the rational number that it is
(`Json.Number.signed?_eq_some_iff`), and for unsigned integers also by how it is written
(`Json.Number.unsigned?_integer`, `Json.Number.unsigned?_double`). Below 2^63 an integer is read as
itself and nothing else is read. From 2^63 on this fails in three places, all of them because a
double is brought to a signed integer of 64 bits by way of a bound that is itself rounded to 2^63
(`FieldSource.number_read_exactly_iff`).
-/

set_option autoImplicit false

namespace SessionHandoff

namespace Json.Number

/-! ## Signed integers -/

/-- A double that is an integer of 64 bits is read as this integer, and 2^63 as the one before. -/
theorem integral?_double {x : Binary64} {k : Int} :
    (Number.double x).integral? = some k ↔
      (x.value = k ∧ minSigned ≤ k ∧ k ≤ maxSigned) ∨
        (x.value = 9223372036854775808 ∧ k = maxSigned) := by
  unfold integral? minSigned maxSigned
  rw [Option.bind_eq_some_iff]
  simp only [toDouble, Option.bind_some, Binary64.integer?_eq_some_iff]
  constructor
  · rintro ⟨j, denoted, bounded⟩
    split at bounded
    · cases bounded
      -- the bound is rounded to 2^63, so this one passes it and is then cut down
      by_cases beyond : j = 9223372036854775808
      · subst beyond
        exact .inr ⟨by exact_mod_cast denoted, by omega⟩
      · have kept : min j 9223372036854775807 = j := by omega
        rw [kept]
        exact .inl ⟨denoted, by omega⟩
    · cases bounded
  · rintro (⟨denoted, low, high⟩ | ⟨denoted, rfl⟩)
    · refine ⟨k, denoted, ?_⟩
      rw [if_pos (by omega), Int.min_eq_left high]
    · exact ⟨9223372036854775808, by exact_mod_cast denoted, by decide⟩

/-- An integer above the signed ones is rounded to a double first, and only those that are rounded
to 2^63 are read. -/
theorem integral?_of_great {k : Int} {inRange} (great : maxSigned < k) :
    (Number.integer k inRange).integral? =
      if k ≤ 9223372036854776832 then some maxSigned else none := by
  unfold maxSigned at great ⊢
  obtain ⟨n, rfl⟩ : ∃ n : Nat, k = n := ⟨k.toNat, by omega⟩
  have low : 9223372036854775808 ≤ n := by omega
  obtain ⟨x, rounded, denoted⟩ := Binary64.nearest_of_bits low (by omega)
  have bound := Binary64.roundHalfEven_le_iff low
  have least := (Binary64.roundHalfEven_bounds low (by omega)).1
  generalize Binary64.roundHalfEven n 2048 = q at denoted bound least
  have whole : x.integer? = some ((q * 2048 : Nat) : Int) := by
    rw [Binary64.integer?_eq_some_iff]
    exact_mod_cast denoted
  have positive : ¬ (n : Int) < 0 := by omega
  unfold integral? minSigned maxSigned
  simp only [toDouble, Int.natAbs_natCast, rounded, Option.map_some, if_neg positive,
    Option.bind_some, whole]
  -- the rounded integer passes the bound if it is 2^63, and the next multiple is beyond it
  by_cases small : n ≤ 9223372036854776832
  · have first := bound.2 small
    rw [if_pos (by omega), if_pos (by omega), Option.some_inj]
    omega
  · have later := mt bound.1 small
    rw [if_neg (by omega), if_neg (by omega)]

/-- A number is read as the signed integer that it is; the numbers from 2^63 up to 2^63 + 1024 are
read as the greatest signed integer. -/
theorem signed?_eq_some_iff {x : Number} {k : Int} :
    x.signed? = some k ↔
      (x.value = k ∧ minSigned ≤ k ∧ k ≤ maxSigned) ∨
        ((9223372036854775808 ≤ x.value ∧ x.value ≤ 9223372036854776832) ∧ k = maxSigned) := by
  cases x with
  | integer n inRange =>
    simp only [signed?, value, Int.cast_inj]
    have bounds : ((9223372036854775808 : ℚ) ≤ n ∧ (n : ℚ) ≤ 9223372036854776832) ↔
        9223372036854775808 ≤ n ∧ n ≤ 9223372036854776832 := by
      constructor
      · rintro ⟨low, high⟩
        exact ⟨by exact_mod_cast low, by exact_mod_cast high⟩
      · rintro ⟨low, high⟩
        exact ⟨by exact_mod_cast low, by exact_mod_cast high⟩
    rw [bounds]
    by_cases small : n ≤ maxSigned
    · rw [if_pos small, Option.some_inj]
      unfold minSigned maxSigned at *
      omega
    · rw [if_neg small, integral?_of_great (by omega)]
      unfold minSigned maxSigned at *
      split
      · rw [Option.some_inj]
        omega
      · simp only [reduceCtorEq, false_iff]
        omega
  | double x =>
    show (Number.double x).integral? = some k ↔ _
    rw [integral?_double]
    -- between 2^63 and the next double there is none
    have first : (9223372036854775808 ≤ x.value ∧ x.value ≤ 9223372036854776832) ↔
        x.value = 9223372036854775808 := by
      constructor
      · rintro ⟨low, high⟩
        obtain ⟨t, multiple⟩ := Binary64.exists_multiple_of_le low
        rw [multiple] at low high ⊢
        have low : (9223372036854775808 : Int) ≤ t * 2048 := by exact_mod_cast low
        have high : t * 2048 ≤ 9223372036854776832 := by exact_mod_cast high
        have same : t * 2048 = 9223372036854775808 := by omega
        rw [same]
        norm_num
      · intro same
        rw [same]
        norm_num
    simp only [value, first]

/-! ## Unsigned integers -/

/-- Brought to 64 bits an unsigned integer stays what it is. -/
theorem toUInt64_eq_some_iff {k : Int} {n : UInt64} (small : k < 18446744073709551616) :
    (if 0 ≤ k then some k.toNat.toUInt64 else none) = some n ↔ k = n.toNat := by
  split
  · next positive =>
    have kept : k.toNat.toUInt64.toNat = k.toNat := Nat.mod_eq_of_lt (by omega)
    rw [Option.some_inj, ← UInt64.toNat_inj]
    omega
  · next negative =>
    simp only [reduceCtorEq, false_iff]
    omega

theorem exists_toNat_eq {k : Int} (positive : 0 ≤ k) (small : k < 18446744073709551616) :
    ∃ n : UInt64, k = n.toNat :=
  ⟨k.toNat.toUInt64, (toUInt64_eq_some_iff small).1 (if_pos positive)⟩

theorem unsigned?_integer {k : Int} {inRange} {n : UInt64} :
    (Number.integer k inRange).unsigned? = some n ↔ k = n.toNat :=
  toUInt64_eq_some_iff inRange.2

/-- A double is read as a signed integer first, so none above 2^63 is read. -/
theorem unsigned?_double {x : Binary64} {n : UInt64} :
    (Number.double x).unsigned? = some n ↔
      (x.value = n.toNat ∧ n.toNat < 9223372036854775808) ∨
        (x.value = 9223372036854775808 ∧ n.toNat = 9223372036854775807) := by
  unfold unsigned?
  dsimp only
  rw [Option.bind_eq_some_iff]
  simp only [integral?_double]
  unfold minSigned maxSigned
  constructor
  · rintro ⟨k, signed, brought⟩
    have same := (toUInt64_eq_some_iff (by omega)).1 brought
    subst same
    -- the signed integer that was read is `n`
    rcases signed with ⟨denoted, -, high⟩ | ⟨denoted, greatest⟩
    · exact .inl ⟨by exact_mod_cast denoted, by omega⟩
    · exact .inr ⟨denoted, by omega⟩
  · intro read
    refine ⟨n.toNat, ?_, (toUInt64_eq_some_iff (by omega)).2 rfl⟩
    rcases read with ⟨denoted, high⟩ | ⟨denoted, greatest⟩
    · exact .inl ⟨by exact_mod_cast denoted, by omega, by omega⟩
    · exact .inr ⟨denoted, by omega⟩

end Json.Number

/-! ## Fields that hold a number -/

/-- A reading of a number takes the integers of a range and no other number, and hands out the
integer that the number is. -/
structure Reading.IsExact {α : Type} (r : Reading α) (toInt : α → Int) (least greatest : Int)
    (x : Json.Number) : Prop where
  accepts : r.faults = [] ↔ ∃ k : Int, x.value = k ∧ least ≤ k ∧ k ≤ greatest
  keeps : r.faults = [] → x.value = toInt r.value

namespace FieldSource

variable {source : FieldSource} {field : WireField} {x : Json.Number}

/-- Reading a number is exact if what the number is taken for is the number, and every integer of
the range is taken for something. -/
theorem isExact_read_iff {α : Type} {convert? : Json.Number → Option α} {expected : Expectation}
    {default : α} {toInt : α → Int} {least greatest : Int}
    (content : source.get? field = some (.number x)) :
    (source.read field expected (fun v => v.number?.bind convert?) default).IsExact toInt least
        greatest x ↔
      (∀ a, convert? x = some a → x.value = toInt a ∧ least ≤ toInt a ∧ toInt a ≤ greatest) ∧
        ∀ k : Int, x.value = k → least ≤ k → k ≤ greatest → ∃ a, convert? x = some a := by
  unfold read
  rw [content]
  simp only [Json.number?, Option.bind_some]
  cases convert? x with
  | none =>
    constructor
    · intro isExact
      constructor
      · intro a taken
        cases taken
      · intro k denoted low high
        cases isExact.accepts.2 ⟨k, denoted, low, high⟩
    · rintro ⟨-, complete⟩
      have outside : ¬ ∃ k : Int, x.value = k ∧ least ≤ k ∧ k ≤ greatest := by
        rintro ⟨k, denoted, low, high⟩
        obtain ⟨a, taken⟩ := complete k denoted low high
        cases taken
      constructor
      · constructor
        · intro accepted
          cases accepted
        · intro inside
          exact absurd inside outside
      · intro accepted
        cases accepted
  | some a =>
    constructor
    · intro isExact
      refine ⟨?_, fun _ _ _ _ => ⟨a, rfl⟩⟩
      rintro b ⟨⟩
      obtain ⟨k, denoted, low, high⟩ := isExact.accepts.1 rfl
      have kept : x.value = toInt a := isExact.keeps rfl
      obtain rfl : k = toInt a := by
        rw [denoted] at kept
        exact_mod_cast kept
      exact ⟨kept, low, high⟩
    · rintro ⟨sound, -⟩
      obtain ⟨denoted, low, high⟩ := sound a rfl
      exact ⟨⟨fun _ => ⟨_, denoted, low, high⟩, fun _ => rfl⟩, fun _ => denoted⟩

/-- An unsigned integer is read exactly, unless it is a double from 2^63 on. -/
theorem isExact_natural_iff (content : source.get? field = some (.number x)) :
    (source.natural field).IsExact (fun n => n.toNat) 0 18446744073709551615 x ↔
      ¬ (x.isDouble = true ∧ 9223372036854775808 ≤ x.value ∧ x.value < 18446744073709551616) := by
  rw [natural, isExact_read_iff content]
  cases x with
  | integer k inRange =>
    simp only [Json.Number.unsigned?_integer]
    constructor
    · rintro - ⟨written, -⟩
      cases written
    · intro _
      constructor
      · rintro n rfl
        have small := n.toNat_lt
        exact ⟨rfl, by omega, by omega⟩
      · intro j same low high
        obtain rfl : k = j := Int.cast_inj.1 same
        exact Json.Number.exists_toNat_eq low inRange.2
  | double d =>
    simp only [Json.Number.unsigned?_double, Json.Number.value]
    constructor
    · rintro ⟨sound, complete⟩ ⟨-, low, high⟩
      -- the double is an integer in the range, so it is read, but only smaller ones are
      obtain ⟨t, multiple⟩ := Json.Binary64.exists_multiple_of_le low
      rw [multiple] at low high
      have atLeast : (9223372036854775808 : Int) ≤ t * 2048 := by exact_mod_cast low
      have below : t * 2048 < 18446744073709551616 := by exact_mod_cast high
      obtain ⟨n, read⟩ := complete (t * 2048) multiple (by omega) (by omega)
      have same := (sound n read).1
      rw [multiple] at same
      have same : t * 2048 = n.toNat := by exact_mod_cast same
      rcases read with ⟨-, small⟩ | ⟨-, less⟩
      · omega
      · omega
    · intro other
      have outside : ¬ (9223372036854775808 ≤ d.value ∧ d.value < 18446744073709551616) :=
        fun inside => other ⟨rfl, inside⟩
      constructor
      · rintro n (⟨denoted, small⟩ | ⟨great, -⟩)
        · exact ⟨denoted, by omega, by omega⟩
        · exact absurd ⟨great.ge, by rw [great]; norm_num⟩ outside
      · intro k denoted low high
        obtain ⟨n, rfl⟩ := Json.Number.exists_toNat_eq low (by omega)
        refine ⟨n, .inl ⟨denoted, ?_⟩⟩
        by_contra great
        have great : 9223372036854775808 ≤ n.toNat := by omega
        have small : n.toNat < 18446744073709551616 := n.toNat_lt
        rw [denoted] at outside
        exact outside ⟨by exact_mod_cast great, by exact_mod_cast small⟩

/-- A signed integer is read exactly, and other numbers are not read, but for the numbers from 2^63
up to 2^63 + 1024. -/
theorem isExact_integer_iff (content : source.get? field = some (.number x)) :
    (source.integer field).IsExact id Json.Number.minSigned Json.Number.maxSigned x ↔
      ¬ (9223372036854775808 ≤ x.value ∧ x.value ≤ 9223372036854776832) := by
  rw [integer, isExact_read_iff content]
  simp only [Json.Number.signed?_eq_some_iff, id_eq]
  constructor
  · rintro ⟨sound, -⟩ first
    obtain ⟨denoted, -, -⟩ := sound Json.Number.maxSigned (.inr ⟨first, rfl⟩)
    have low := first.1
    rw [denoted] at low
    have : (9223372036854775808 : Int) ≤ Json.Number.maxSigned := by exact_mod_cast low
    exact absurd this (by decide)
  · intro other
    constructor
    · rintro k (read | ⟨first, -⟩)
      · exact read
      · exact absurd first other
    · intro k denoted low high
      exact ⟨k, .inl ⟨denoted, low, high⟩⟩

/-- **Numbers are read exactly up to 2^63.** Let a field hold a number.

* Read as an unsigned integer it is accepted exactly if it is an integer from 0 to 2^64 - 1, and
  then read as this integer, unless it is a double from 2^63 up to 2^64.
* Read as a signed integer it is accepted exactly if it is an integer from -2^63 to 2^63 - 1, and
  then read as this integer, unless it is a number from 2^63 up to 2^63 + 1024.
* Of these exceptions the numbers that are read as signed integers and the double 2^63 are read as
  2^63 - 1, and the other doubles are refused. -/
theorem number_read_exactly_iff (content : source.get? field = some (.number x)) :
    ((source.natural field).IsExact (fun n => n.toNat) 0 18446744073709551615 x ↔
      ¬ (x.isDouble = true ∧ 9223372036854775808 ≤ x.value ∧ x.value < 18446744073709551616)) ∧
    ((source.integer field).IsExact id Json.Number.minSigned Json.Number.maxSigned x ↔
      ¬ (9223372036854775808 ≤ x.value ∧ x.value ≤ 9223372036854776832)) ∧
    (x.isDouble = true → x.value = 9223372036854775808 →
      source.natural field = pure 9223372036854775807) ∧
    (x.isDouble = true → 9223372036854775808 < x.value →
      source.natural field = .fault field (.mistyped .natural) 0) ∧
    (9223372036854775808 ≤ x.value → x.value ≤ 9223372036854776832 →
      source.integer field = pure Json.Number.maxSigned) := by
  refine ⟨isExact_natural_iff content, isExact_integer_iff content, ?_, ?_, ?_⟩
  · intro written great
    cases x with
    | integer k inRange => cases written
    | double d =>
      exact read_of_get? content (Json.Number.unsigned?_double.2 (.inr ⟨great, rfl⟩))
  · intro written greater
    cases x with
    | integer k inRange => cases written
    | double d =>
      have refused : (Json.Number.double d).unsigned? = none := by
        rw [Option.eq_none_iff_forall_ne_some]
        intro n read
        rcases Json.Number.unsigned?_double.1 read with ⟨denoted, small⟩ | ⟨same, -⟩
        · rw [Json.Number.value, denoted] at greater
          have : 9223372036854775808 < n.toNat := by exact_mod_cast greater
          omega
        · exact greater.ne' same
      rw [natural, read, content]
      simp only [Json.number?, Option.bind_some, refused]
  · intro low high
    exact read_of_get? content (Json.Number.signed?_eq_some_iff.2 (.inr ⟨⟨low, high⟩, rfl⟩))

/-- The greatest unsigned integer, and the least signed one, which is written as a double. -/
theorem number_read_exactly_iff_ends :
    let greatest : Json.Number := .integer 18446744073709551615 (by decide)
    let least : Json.Number := .double ⟨-1, 63, by decide⟩
    let source : FieldSource :=
      some [("memoryLimitBytes", .number greatest), ("priority", .number least)]
    (source.get? .memoryBytes = some (.number greatest) ∧
      (source.natural .memoryBytes).IsExact (fun n => n.toNat) 0 18446744073709551615 greatest) ∧
    source.get? .priority = some (.number least) ∧
      (source.integer .priority).IsExact id Json.Number.minSigned Json.Number.maxSigned least := by
  intro greatest least source
  refine ⟨⟨rfl, (number_read_exactly_iff rfl).1.2 nofun⟩, rfl, ?_⟩
  refine (number_read_exactly_iff rfl).2.1.2 fun great => ?_
  have negative : least.value < 0 := by
    simp only [least, Json.Number.value, Json.Binary64.value]
    norm_num
  linarith [great.1]

/-- The double 2^63 is read as the unsigned integer before it, the next double, an integer like all
of its size, is refused, and the integer 2^63 is read as a signed integer. -/
theorem great_numbers_misread :
    let source : FieldSource :=
      some [("cpuLimit", .number (.double ⟨4503599627370497, 11, by decide⟩)),
        ("memoryLimitBytes", .number (.double ⟨1, 63, by decide⟩)),
        ("priority", .number (.integer 9223372036854775808 (by decide)))]
    (∃ x, source.get? .memoryBytes = some (.number x) ∧ x.value = 9223372036854775808 ∧
      source.natural .memoryBytes = pure 9223372036854775807) ∧
    (∃ x, source.get? .cpuSeconds = some (.number x) ∧ x.value = 9223372036854777856 ∧
      (source.natural .cpuSeconds).faults = [⟨.cpuSeconds, .mistyped .natural⟩]) ∧
    ∃ x, source.get? .priority = some (.number x) ∧ x.value = 9223372036854775808 ∧
      source.integer .priority = pure 9223372036854775807 := by
  intro source
  refine ⟨⟨_, rfl, ?_, rfl⟩, ⟨_, rfl, ?_, rfl⟩, ⟨_, rfl, ?_, rfl⟩⟩
  · simp only [Json.Number.value, Json.Binary64.value]
    norm_num
  · simp only [Json.Number.value, Json.Binary64.value]
    norm_num
  · simp only [Json.Number.value]
    norm_num

end FieldSource

end SessionHandoff
