/-!
# Digits

Numbers as they stand in texts: decimal naturals and integers, octal permission bits, hexadecimal
character codes.
-/

set_option autoImplicit false

namespace SessionHandoff.Text

/-- A natural number in decimal. -/
def decimal (n : Nat) : List Char :=
  Nat.toDigits 10 n

/-- An integer in decimal, with a minus sign where it is negative. -/
def signedDecimal : Int → List Char
  | .ofNat n => decimal n
  | .negSucc n => '-' :: decimal (n + 1)

/-- A natural number in octal. -/
def octal (n : Nat) : List Char :=
  Nat.toDigits 8 n

/-- A natural number in hexadecimal with small letters. -/
def hexadecimal (n : Nat) : List Char :=
  Nat.toDigits 16 n

/-- A natural number in decimal, as a string. -/
def decimalString (n : Nat) : String :=
  String.ofList (decimal n)

/-- An integer in decimal, as a string. -/
def signedString (n : Int) : String :=
  String.ofList (signedDecimal n)

/-- The value of a decimal digit. -/
def digit? (c : Char) : Option Nat :=
  if '0' ≤ c ∧ c ≤ '9' then some (c.toNat - 48) else none

/-- The value of a hexadecimal digit, small or capital. -/
def hexDigit? (c : Char) : Option Nat :=
  if '0' ≤ c ∧ c ≤ '9' then some (c.toNat - 48)
  else if 'a' ≤ c ∧ c ≤ 'f' then some (c.toNat - 87)
  else if 'A' ≤ c ∧ c ≤ 'F' then some (c.toNat - 55)
  else none

/-- The number that decimal digits spell, most significant digit first. -/
def ofDigits (digits : List Nat) : Nat :=
  digits.foldl (fun n d => 10 * n + d) 0

/-- The natural number that a text of decimal digits spells. -/
def natural? (text : List Char) : Option Nat :=
  if text.isEmpty then none else (text.mapM digit?).map ofDigits

end SessionHandoff.Text
