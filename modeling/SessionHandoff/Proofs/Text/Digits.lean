import Mathlib.Tactic.Common
import SessionHandoff.Text.Digits

/-!
# Names and numbers in texts

A name is read off the front of a text up to where its characters end (`name_append_inj`). The
digits of a number are such characters, and they tell the number (`toDigits_inj`).
-/

set_option autoImplicit false

namespace SessionHandoff.Text

/-! ## Names -/

/-- The characters of names and numbers. -/
def isNameChar (c : Char) : Bool :=
  c.isAlphanum || c = '_' || c = '-'

/-- The words that may stand unquoted. -/
def IsName (s : String) : Prop :=
  s.toList ≠ [] ∧ ∀ c ∈ s.toList, isNameChar c = true

instance (s : String) : Decidable (IsName s) :=
  decidable_of_iff ((!s.toList.isEmpty && s.toList.all isNameChar) = true) (by simp [IsName])

/-- A text that does not go on with a name. -/
def Halts (s : List Char) : Prop :=
  ∀ c r, s = c :: r → isNameChar c = false

theorem Halts.cons {c : Char} (r : List Char) (hc : isNameChar c = false) : Halts (c :: r) := by
  intro d r' h
  cases h
  exact hc

/-- A name ends where its characters do. -/
theorem name_append_inj {n m s t : List Char} (hn : ∀ c ∈ n, isNameChar c = true)
    (hm : ∀ c ∈ m, isNameChar c = true) (hs : Halts s) (ht : Halts t) (same : n ++ s = m ++ t) :
    n = m ∧ s = t := by
  induction n generalizing m with
  | nil =>
    cases m with
    | nil => exact ⟨rfl, same⟩
    | cons d m =>
      have := hs d (m ++ t) same
      rw [hm d List.mem_cons_self] at this
      cases this
  | cons c n ih =>
    cases m with
    | nil =>
      have := ht c (n ++ s) same.symm
      rw [hn c List.mem_cons_self] at this
      cases this
    | cons d m =>
      obtain ⟨rfl, rest⟩ := List.cons.inj same
      obtain ⟨rfl, rfl⟩ := ih (fun c hc => hn c (List.mem_cons_of_mem _ hc))
        (fun c hc => hm c (List.mem_cons_of_mem _ hc)) rest
      exact ⟨rfl, rfl⟩

/-! ## Numbers -/

section Digits

variable {base : Nat} (above : 1 < base) (below : base ≤ 16)

theorem digitChar_inj : ∀ m < 16, ∀ n < 16, Nat.digitChar m = Nat.digitChar n → m = n := by decide

theorem isNameChar_digitChar : ∀ n < 16, isNameChar (Nat.digitChar n) = true := by decide

include above below

/-- A number is told by its digits. -/
theorem toDigits_inj {m n : Nat} (same : Nat.toDigits base m = Nat.toDigits base n) : m = n := by
  induction m using Nat.strongRecOn generalizing n with
  | ind m ih =>
    have hlast : ∀ k, k % base < 16 := fun k =>
      Nat.lt_of_lt_of_le (Nat.mod_lt k (by omega)) below
    by_cases hm : m < base <;> by_cases hn : n < base
    · rw [Nat.toDigits_of_lt_base hm, Nat.toDigits_of_lt_base hn] at same
      exact digitChar_inj m (by omega) n (by omega) (List.cons.inj same).1
    -- One digit is not as many as more than one.
    · rw [Nat.toDigits_of_lt_base hm, Nat.toDigits_of_base_le above (by omega)] at same
      have : Nat.toDigits base (n / base) = [] := by
        simpa using congrArg List.length same
      exact absurd this Nat.toDigits_ne_nil
    · rw [Nat.toDigits_of_lt_base hn, Nat.toDigits_of_base_le above (by omega)] at same
      have : Nat.toDigits base (m / base) = [] := by
        simpa using congrArg List.length same
      exact absurd this Nat.toDigits_ne_nil
    · rw [Nat.toDigits_of_base_le above (Nat.le_of_not_lt hm),
        Nat.toDigits_of_base_le above (Nat.le_of_not_lt hn)] at same
      obtain ⟨leading, last⟩ := List.append_inj' same rfl
      have hdiv : m / base = n / base :=
        ih (m / base) (Nat.div_lt_self (by omega) above) leading
      have hmod : m % base = n % base :=
        digitChar_inj _ (hlast m) _ (hlast n) (List.cons.inj last).1
      rw [← Nat.div_add_mod m base, ← Nat.div_add_mod n base, hdiv, hmod]

theorem isNameChar_of_mem_toDigits {n : Nat} {c : Char} (hc : c ∈ Nat.toDigits base n) :
    isNameChar c = true := by
  induction n using Nat.strongRecOn with
  | ind n ih =>
    by_cases hn : n < base
    · rw [Nat.toDigits_of_lt_base hn, List.mem_singleton] at hc
      rw [hc]
      exact isNameChar_digitChar n (by omega)
    · rw [Nat.toDigits_of_base_le above (by omega), List.mem_append, List.mem_singleton] at hc
      rcases hc with hc | rfl
      · exact ih (n / base) (Nat.div_lt_self (by omega) above) hc
      · exact isNameChar_digitChar _ (Nat.lt_of_lt_of_le (Nat.mod_lt n (by omega)) below)

end Digits

theorem decimal_inj {m n : Nat} (same : decimal m = decimal n) : m = n :=
  toDigits_inj (by decide) (by decide) same

theorem isNameChar_of_mem_decimal {n : Nat} {c : Char} (hc : c ∈ decimal n) :
    isNameChar c = true :=
  isNameChar_of_mem_toDigits (by decide) (by decide) hc

theorem decimal_ne_nil (n : Nat) : decimal n ≠ [] :=
  Nat.toDigits_ne_nil

theorem decimalString_inj {m n : Nat} : decimalString m = decimalString n ↔ m = n := by
  constructor
  · intro same
    exact decimal_inj (String.ofList_injective same)
  · intro h
    rw [h]

/-- A number is told by a text that it stands in at a fixed place. -/
theorem decimalString_append_inj {before after : String} {m n : Nat}
    (same : before ++ decimalString m ++ after = before ++ decimalString n ++ after) : m = n := by
  have listed := congrArg String.toList same
  simp only [String.toList_append, decimalString, String.toList_ofList] at listed
  exact decimal_inj (List.append_cancel_left (List.append_cancel_right listed))

/-- No number is written with a minus sign in front, so the sign is told from the digits. -/
theorem minus_not_mem_decimal (n : Nat) : '-' ∉ decimal n := by
  intro h
  exact absurd (Nat.isDigit_of_mem_toDigits (by decide) (by decide) h) (by decide)

theorem signedDecimal_inj {m n : Int} (same : signedDecimal m = signedDecimal n) : m = n := by
  cases m with
  | ofNat m =>
    cases n with
    | ofNat n => rw [decimal_inj same]
    | negSucc n =>
      have h : '-' ∈ decimal m := by
        show '-' ∈ signedDecimal (.ofNat m)
        rw [same]
        exact List.mem_cons_self
      exact absurd h (minus_not_mem_decimal m)
  | negSucc m =>
    cases n with
    | ofNat n =>
      have h : '-' ∈ decimal n := by
        show '-' ∈ signedDecimal (.ofNat n)
        rw [← same]
        exact List.mem_cons_self
      exact absurd h (minus_not_mem_decimal n)
    | negSucc n =>
      have := decimal_inj (List.cons.inj same).2
      rw [Nat.succ.inj this]

theorem signedString_inj {m n : Int} : signedString m = signedString n ↔ m = n := by
  constructor
  · intro same
    exact signedDecimal_inj (String.ofList_injective same)
  · intro h
    rw [h]

theorem isName_decimalString (n : Nat) : IsName (decimalString n) := by
  rw [IsName, decimalString, String.toList_ofList]
  exact ⟨decimal_ne_nil n, fun c hc => isNameChar_of_mem_decimal hc⟩

theorem isName_signedString (n : Int) : IsName (signedString n) := by
  rw [IsName, signedString, String.toList_ofList]
  cases n with
  | ofNat n => exact ⟨decimal_ne_nil n, fun c hc => isNameChar_of_mem_decimal hc⟩
  | negSucc n =>
    refine ⟨List.cons_ne_nil _ _, ?_⟩
    intro c hc
    rcases List.mem_cons.1 hc with rfl | hc
    · decide
    · exact isNameChar_of_mem_decimal hc

end SessionHandoff.Text
