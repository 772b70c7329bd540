import Mathlib.Tactic.NormNum
import Mathlib.Tactic.Linarith
import Mathlib.Tactic.Ring
import Mathlib.Algebra.Order.Field.Power
import SessionHandoff.Json.Number

/-!
# What numbers are

A finite double is a rational number, and so is an integer. Which integer a double is equal to, if
any, is decided by that number alone (`Binary64.integer?_eq_some_iff`). From 2^63 on all doubles are
multiples of 2^11, and an integer of 64 bits that has no double of its own is rounded to such a
multiple (`Binary64.nearest_of_bits`).
-/

set_option autoImplicit false

namespace SessionHandoff.Json

/-! ## Doubles -/

namespace Binary64

/-- The rational number that the double is. -/
def value (x : Binary64) : ℚ := x.significand * 2 ^ x.exponent

theorem value_of_natCast {x : Binary64} {n : Nat} (h : x.exponent = n) :
    x.value = (x.significand * (1 <<< n : Nat) : Int) := by
  rw [value, h, zpow_natCast, Nat.one_shiftLeft]
  push_cast
  rfl

theorem value_of_neg {x : Binary64} {n : Nat} (h : -x.exponent = n) :
    x.value * (1 <<< n : Nat) = x.significand := by
  have hx : x.exponent = -(n : Int) := by omega
  rw [value, hx, zpow_neg, zpow_natCast, Nat.one_shiftLeft]
  push_cast
  exact inv_mul_cancel_right₀ (by positivity) _

theorem integer?_eq_some_iff {x : Binary64} {k : Int} :
    x.integer? = some k ↔ x.value = k := by
  unfold integer?
  split
  · next h =>
    rw [value_of_natCast (Int.toNat_of_nonneg h).symm, Int.cast_inj, Option.some_inj]
  · next h =>
    -- the significand over a power of two, an integer exactly if the power divides it
    have neg : -x.exponent = ((-x.exponent).toNat : Int) := by omega
    generalize (-x.exponent).toNat = n at neg
    have positive : (0 : Int) < (1 <<< n : Nat) := by
      rw [Nat.one_shiftLeft]
      positivity
    have whole : x.value = k ↔ x.significand = k * (1 <<< n : Nat) := by
      have nonzero : ((1 <<< n : Nat) : ℚ) ≠ 0 := by exact_mod_cast positive.ne'
      rw [← @Int.cast_inj ℚ, ← value_of_neg neg, Int.cast_mul, Int.cast_natCast,
        mul_left_inj' nonzero]
    rw [whole]
    constructor
    · intro divided
      split at divided
      · next noRest =>
        cases divided
        exact (Int.ediv_mul_cancel (Int.dvd_of_emod_eq_zero noRest)).symm
      · cases divided
    · intro same
      rw [same, Int.mul_emod_left, if_pos rfl, Int.mul_ediv_cancel _ positive.ne']

/-- Doubles from 2^63 on are multiples of 2^11. -/
theorem exists_multiple_of_le {x : Binary64} (great : 9223372036854775808 ≤ x.value) :
    ∃ k : Int, x.value = (k * 2048 : Int) := by
  have significand : (x.significand : ℚ) < 2 ^ (53 : Int) := by
    have bits : x.significand.natAbs < 9007199254740992 := x.inFormat.1
    have less : x.significand < 2 ^ 53 := by omega
    exact_mod_cast less
  have exponent : 11 ≤ x.exponent := by
    -- 53 bits are below 2^63 when they are shifted by ten or less
    by_contra small
    have power : (2 : ℚ) ^ x.exponent ≤ 2 ^ (10 : Int) :=
      zpow_le_zpow_right₀ (by norm_num) (by omega)
    have positive : (0 : ℚ) < 2 ^ x.exponent := by positivity
    have bounded : x.value < 2 ^ (53 : Int) * 2 ^ (10 : Int) :=
      calc
        (x.significand : ℚ) * 2 ^ x.exponent < 2 ^ (53 : Int) * 2 ^ x.exponent :=
          mul_lt_mul_of_pos_right significand positive
        _ ≤ 2 ^ (53 : Int) * 2 ^ (10 : Int) := mul_le_mul_of_nonneg_left power (by positivity)
    norm_num at bounded
    linarith
  obtain ⟨n, rest⟩ := Int.le.dest exponent
  refine ⟨x.significand * 2 ^ n, ?_⟩
  rw [value, ← rest, zpow_add₀ two_ne_zero, zpow_natCast]
  push_cast
  ring

/-! ## Rounding integers of 64 bits -/

/-- The nearest multiple is at most half a step away, and of two that are equally near it is the
even one. -/
theorem roundHalfEven_near (num : Nat) {den : Nat} (positive : 0 < den) :
    2 * num ≤ 2 * (den * roundHalfEven num den) + den ∧
      2 * (den * roundHalfEven num den) ≤ 2 * num + den ∧
      (2 * num = 2 * (den * roundHalfEven num den) + den ∨
          2 * (den * roundHalfEven num den) = 2 * num + den →
        roundHalfEven num den % 2 = 0) := by
  have divided := Nat.div_add_mod num den
  have next : den * (num / den + 1) = den * (num / den) + den := Nat.mul_succ _ _
  have rest := Nat.mod_lt num positive
  unfold roundHalfEven
  dsimp only
  generalize num / den = q at *
  split
  · omega
  · split
    · rw [next]
      omega
    · -- half a step: the quotient stays if it is even, and otherwise the next one is
      rcases Nat.mod_two_eq_zero_or_one q with even | odd
      · rw [even, Nat.add_zero]
        omega
      · rw [odd, next]
        omega

/-- Of the integers that have 64 bits the first 1024 behind 2^63 are rounded to it. -/
theorem roundHalfEven_le_iff {n : Nat} (low : 9223372036854775808 ≤ n) :
    roundHalfEven n 2048 ≤ 4503599627370496 ↔ n ≤ 9223372036854776832 := by
  have near := roundHalfEven_near n (show 0 < 2048 by decide)
  omega

theorem roundHalfEven_bounds {n : Nat} (low : 9223372036854775808 ≤ n)
    (high : n < 18446744073709551616) :
    4503599627370496 ≤ roundHalfEven n 2048 ∧ roundHalfEven n 2048 ≤ 9007199254740992 := by
  have near := roundHalfEven_near n (show 0 < 2048 by decide)
  omega

theorem exponentFor_of_bits {n : Nat} (low : 9223372036854775808 ≤ n)
    (high : n < 18446744073709551616) : exponentFor n 1 = 11 := by
  have log : Nat.log2 n = 63 := by
    rw [Nat.log2_eq_iff (by omega)]
    omega
  have one : Nat.log2 1 = 0 := by decide
  have whole : ¬ n < 9223372036854775808 := by omega
  simp [exponentFor, log, one, scaled, Nat.shiftLeft_eq, whole]

/-- A significand with an exponent that the format holds is a double. -/
theorem exists_ofParts? {significand n : Nat} (bits : significand < 9007199254740992)
    (small : n ≤ 971) :
    ∃ x, ofParts? significand n = some x ∧ x.value = (significand * 2 ^ n : Nat) := by
  have inFormat : (significand : Int).natAbs < 1 <<< 53 ∧ (-1074 : Int) ≤ n ∧ (n : Int) ≤ 971 := by
    simp only [Int.natAbs_natCast, Nat.one_shiftLeft]
    omega
  refine ⟨⟨significand, n, inFormat⟩, dif_pos inFormat, ?_⟩
  rw [value_of_natCast rfl, Nat.one_shiftLeft]
  push_cast
  rfl

/-- An integer of 64 bits is rounded to a multiple of 2^11. -/
theorem nearest_of_bits {n : Nat} (low : 9223372036854775808 ≤ n)
    (high : n < 18446744073709551616) :
    ∃ x, nearest n 1 = some x ∧ x.value = (roundHalfEven n 2048 * 2048 : Nat) := by
  have nonzero : n ≠ 0 := by omega
  obtain ⟨-, greatest⟩ := roundHalfEven_bounds low high
  have parts : scaled n 1 11 = (n, 2048) := by simp [scaled]
  rw [nearest, if_neg nonzero, exponentFor_of_bits low high]
  dsimp only
  rw [parts]
  dsimp only
  generalize roundHalfEven n 2048 = q at greatest ⊢
  split
  · next carry =>
    -- rounded up to 54 bits, of which the lower ones are zero: the exponent is one more
    obtain ⟨x, found, denoted⟩ := @exists_ofParts? (1 <<< 52) 12 (by decide) (by decide)
    refine ⟨x, found, ?_⟩
    rw [denoted, carry]
    rfl
  · next fits =>
    have bits : q < 9007199254740992 := by
      have carry : (1 <<< 53 : Nat) = 9007199254740992 := by decide
      omega
    exact exists_ofParts? bits (by decide)

end Binary64

/-! ## Numbers -/

namespace Number

/-- The rational number that the number is. -/
def value : Number → ℚ
  | .integer k _ => k
  | .double x => x.value

/-- Whether the number is written as a double. -/
def isDouble : Number → Bool
  | .integer _ _ => false
  | .double _ => true

end Number

end SessionHandoff.Json
