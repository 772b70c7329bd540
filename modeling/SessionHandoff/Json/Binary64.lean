/-!
# Finite doubles

A finite double is taken as the dyadic rational that it denotes: an integer significand of at most
53 bits times a power of two in the range of the format. `nearest` rounds a quotient of naturals to
the closest such value, a tie to the even significand, and gives nothing where the value is too
large for the format. All arithmetic is exact arithmetic on naturals followed by one rounding.
-/

set_option autoImplicit false

namespace SessionHandoff.Json

/-- The finite double of value `significand * 2 ^ exponent`. Both zeros are the same value. -/
structure Binary64 where
  significand : Int
  exponent : Int
  inFormat : significand.natAbs < 1 <<< 53 ∧ -1074 ≤ exponent ∧ exponent ≤ 971
deriving DecidableEq, Repr

namespace Binary64

/-- The value zero. -/
def zero : Binary64 := ⟨0, 0, by decide⟩

/-- The value with the other sign. -/
def negate (x : Binary64) : Binary64 :=
  ⟨-x.significand, x.exponent, by simpa using x.inFormat⟩

/-- The integer that the double is equal to, if it is one. -/
def integer? (x : Binary64) : Option Int :=
  if 0 ≤ x.exponent then some (x.significand * (1 <<< x.exponent.toNat : Nat))
  else if x.significand % (1 <<< (-x.exponent).toNat : Nat) = 0 then
    some (x.significand / (1 <<< (-x.exponent).toNat : Nat))
  else none

/-! ## Rounding -/

/-- The quotient rounded to the nearest natural, a half to the even one. -/
def roundHalfEven (num den : Nat) : Nat :=
  let q := num / den
  let r := num % den
  if 2 * r < den then q
  else if den < 2 * r then q + 1
  else q + q % 2

/-- Numerator and denominator of `num / den / 2 ^ e`. -/
def scaled (num den : Nat) (e : Int) : Nat × Nat :=
  (num <<< (-e).toNat, den <<< e.toNat)

/-- The exponent at which the significand of `num / den` has 53 bits, but never below the least
exponent of the format. -/
def exponentFor (num den : Nat) : Int :=
  let guess : Int := (Nat.log2 num : Int) - (Nat.log2 den : Int) - 52
  let s := scaled num den guess
  max (if s.1 < s.2 <<< 52 then guess - 1 else guess) (-1074)

/-- The double with the given significand and exponent, if the format holds it. -/
def ofParts? (significand : Nat) (exponent : Int) : Option Binary64 :=
  if h : (significand : Int).natAbs < 1 <<< 53 ∧ -1074 ≤ exponent ∧ exponent ≤ 971 then
    some ⟨significand, exponent, h⟩
  else none

/-- The double nearest to `num / den`. -/
def nearest (num den : Nat) : Option Binary64 :=
  if num = 0 then some zero
  else
    let e := exponentFor num den
    let s := scaled num den e
    let q := roundHalfEven s.1 s.2
    if q = 1 <<< 53 then ofParts? (1 <<< 52) (e + 1) else ofParts? q e

/-- The rounded product of two doubles that are not negative. -/
def times (x y : Binary64) : Option Binary64 :=
  let e := x.exponent + y.exponent
  nearest ((x.significand.toNat * y.significand.toNat) <<< e.toNat) (1 <<< (-e).toNat)

/-- The rounded quotient of two doubles that are not negative. -/
def dividedBy (x y : Binary64) : Option Binary64 :=
  let e := x.exponent - y.exponent
  nearest (x.significand.toNat <<< e.toNat) (y.significand.toNat <<< (-e).toNat)

/-! ## Decimal scaling -/

/-- The greatest power of ten that one scaling step uses. -/
def maxPower : Nat := 308

/-- The double nearest to a power of ten. -/
def powerOfTen (n : Nat) : Option Binary64 :=
  nearest (Nat.pow 10 n) 1

/-- Divide so many times by `10 ^ 308`, rounding each time; zero needs no division. -/
def shrink : Nat → Binary64 → Option Binary64
  | 0, x => some x
  | steps + 1, x =>
    if x.significand = 0 then some x
    else ((powerOfTen maxPower).bind x.dividedBy).bind (shrink steps)

/-- Scale a value that is not negative by `10 ^ exponent`: one rounded product, or rounded
quotients by at most `10 ^ 308` each. Nothing where the result is too large. -/
def scaleDecimal (x : Binary64) (exponent : Int) : Option Binary64 :=
  let n := exponent.natAbs
  if 0 ≤ exponent then
    if n ≤ maxPower then (powerOfTen n).bind x.times
    else if x.significand = 0 then some x
    else none
  else
    let steps := (n - 1) / maxPower
    (shrink steps x).bind fun y => (powerOfTen (n - steps * maxPower)).bind y.dividedBy

end Binary64

end SessionHandoff.Json
