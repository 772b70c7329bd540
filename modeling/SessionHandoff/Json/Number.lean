import SessionHandoff.Json.Binary64
import SessionHandoff.Text.Digits

/-!
# Numbers in a JSON text

A number text is what the grammar of JSON keeps of a number: a sign, the digits before the point,
the digits after it, and an exponent. A number is the value taken from it: an integer where the
text has neither point nor exponent and 64 bits hold it, else a double. The text `-0` is a double.

A double is made from at most 64 bits of leading digits and one decimal scaling. A text whose value
is too large for a double has no number.
-/

set_option autoImplicit false

namespace SessionHandoff.Json

/-- The exponent of a number text. -/
structure ExponentText where
  negative : Bool
  digits : List Nat
deriving DecidableEq, Repr

/-- A number as it is written. An empty fraction stands for no point. -/
structure NumberText where
  negative : Bool
  whole : List Nat
  fraction : List Nat
  exponent : Option ExponentText
deriving DecidableEq, Repr

/-- A number as it is read. -/
inductive Number where
  /-- An integer that 64 bits hold, with or without a sign. -/
  | integer (value : Int) (inRange : -9223372036854775808 ≤ value ∧ value < 18446744073709551616)
  | double (value : Binary64)
deriving DecidableEq, Repr

/-- The power of ten that an exponent names. -/
def ExponentText.power (e : ExponentText) : Int :=
  if e.negative then -(Text.ofDigits e.digits : Int) else Text.ofDigits e.digits

namespace NumberText

/-- The greatest significand that is collected from digits. -/
def maxSignificand : Nat := 1 <<< 64 - 1

/-- Collect leading digits while the significand fits 64 bits; the digits left over come second. -/
def collect : Nat → List Nat → Nat × List Nat
  | significand, [] => (significand, [])
  | significand, d :: rest =>
    if significand * 10 + d ≤ maxSignificand then collect (significand * 10 + d) rest
    else (significand, d :: rest)

/-- The value with a sign put to it. -/
def signed (negative : Bool) (x : Binary64) : Binary64 :=
  if negative then x.negate else x

/-- The double of a text: whole digits that were not collected raise the power of ten, collected
digits of the fraction lower it. -/
def double? (t : NumberText) : Option Binary64 :=
  let whole := collect 0 t.whole
  let fraction := collect whole.1 t.fraction
  let power : Int :=
    whole.2.length - (t.fraction.length - fraction.2.length : Nat) +
      (t.exponent.map ExponentText.power).getD 0
  ((Binary64.nearest fraction.1 1).bind (Binary64.scaleDecimal · power)).map (signed t.negative)

/-- The integer of a text without point and exponent, the text `-0` excepted. -/
def integer? (t : NumberText) : Option Int :=
  if t.fraction = [] ∧ t.exponent = none then
    let n := Text.ofDigits t.whole
    if t.negative then (if n = 0 then none else some (-n)) else some n
  else none

/-- The number of a text. -/
def value? (t : NumberText) : Option Number :=
  match t.integer? with
  | some n =>
    if h : -9223372036854775808 ≤ n ∧ n < 18446744073709551616 then some (.integer n h)
    else t.double?.map .double
  | none => t.double?.map .double

end NumberText

end SessionHandoff.Json
