import SessionHandoff.Json.Binary64
import SessionHandoff.Text.Digits

/-!
# Formatted values

How a value is written under a directive of a format: aligned in a width, with a sign or a base in
front, with a number of digits. Reals are written from their exact values and rounded to the nearest
decimal, a half to the even one.
-/

set_option autoImplicit false

namespace SessionHandoff.Text

open SessionHandoff.Json (Binary64)

/-- A directive of a format. -/
structure Directive where
  left : Bool := false
  plus : Bool := false
  space : Bool := false
  /-- Whether the base is written, and zeros at the end of reals are kept. -/
  alternate : Bool := false
  zeros : Bool := false
  width : Nat := 0
  precision? : Option Nat := none
deriving Repr, Inhabited

/-- A real as programs know it. -/
inductive Real where
  | finite (negative : Bool) (size : Binary64)
  | infinite (negative : Bool)
  | undefined (negative : Bool)
deriving Repr

namespace Directive

/-- A text at its end of the width. -/
def align (d : Directive) (text : List Char) : List Char :=
  let blanks := List.replicate (d.width - text.length) ' '
  if d.left then text ++ blanks else blanks ++ text

/-- A sign or base and digits in the width, with zeros between them on request. -/
def alignNumber (d : Directive) (zeros : Bool) (front digits : List Char) : List Char :=
  if zeros && !d.left then
    front ++ List.replicate (d.width - front.length - digits.length) '0' ++ digits
  else d.align (front ++ digits)

/-- The sign of a number. -/
def sign (d : Directive) (negative : Bool) : List Char :=
  if negative then ['-'] else if d.plus then ['+'] else if d.space then [' '] else []

/-- A text, cut to the precision. -/
def text (d : Directive) (s : List Char) : List Char :=
  d.align (match d.precision? with
    | some n => s.take n
    | none => s)

/-- The digits of a natural number, as many as the precision asks for. -/
def digits (d : Directive) (base n : Nat) : List Char :=
  let ds := Nat.toDigits base n
  match d.precision? with
  | none => ds
  | some p => if p = 0 ∧ n = 0 then [] else List.replicate (p - ds.length) '0' ++ ds

/-- An integer in decimal. -/
def integer (d : Directive) (n : Int) : List Char :=
  d.alignNumber (d.zeros && d.precision?.isNone) (d.sign (n < 0)) (d.digits 10 n.natAbs)

/-- A natural number in some base. -/
def natural (d : Directive) (base n : Nat) (capital : Bool) : List Char :=
  let ds := d.digits base n
  let ds := if capital then ds.map Char.toUpper else ds
  let ds := if d.alternate && base = 8 && ds.head? ≠ some '0' then '0' :: ds else ds
  let front := if d.alternate && base = 16 && n ≠ 0 then ['0', if capital then 'X' else 'x'] else []
  d.alignNumber (d.zeros && d.precision?.isNone) front ds

/-! ## Reals -/

/-- Numerator and denominator of the size of a real. -/
def quotient (x : Binary64) : Nat × Nat :=
  (x.significand.natAbs <<< x.exponent.toNat, 1 <<< (-x.exponent).toNat)

/-- Digits with a point so many digits from their end. -/
def pointed (alternate : Bool) (places n : Nat) : List Char :=
  let ds := decimal n
  let ds := List.replicate (places + 1 - ds.length) '0' ++ ds
  let whole := ds.take (ds.length - places)
  let rest := ds.drop (ds.length - places)
  if places = 0 ∧ !alternate then whole else whole ++ '.' :: rest

/-- A real with so many places after the point. -/
def fixed (alternate : Bool) (places : Nat) (x : Binary64) : List Char :=
  let q := quotient x
  pointed alternate places (Binary64.roundHalfEven (q.1 * Nat.pow 10 places) q.2)

/-- The size of a real times a power of ten, rounded. -/
def scaledDecimal (x : Binary64) (power : Int) : Nat :=
  let q := quotient x
  Binary64.roundHalfEven (q.1 * Nat.pow 10 power.toNat) (q.2 * Nat.pow 10 (-power).toNat)

/-- The power of ten of the first digit of a real that is not zero, so many above some least one at
most. -/
def leadingPower (x : Binary64) : Int :=
  let q := quotient x
  let guess : Int := ((decimal q.1).length : Int) - ((decimal q.2).length : Int)
  if q.1 * Nat.pow 10 (-guess).toNat < q.2 * Nat.pow 10 guess.toNat then guess - 1 else guess

/-- The digits of a real with so many places after the first, and the power of ten of the first. -/
def significant (places : Nat) (x : Binary64) : Nat × Int :=
  if x.significand = 0 then (0, 0)
  else
    let power := leadingPower x
    let n := scaledDecimal x (places - power)
    if n = Nat.pow 10 (places + 1) then (Nat.pow 10 places, power + 1) else (n, power)

/-- A power of ten after its letter: a sign and two digits at least. -/
def powerText (capital : Bool) (power : Int) : List Char :=
  let ds := decimal power.natAbs
  (if capital then 'E' else 'e') :: (if power < 0 then '-' else '+') ::
    (List.replicate (2 - ds.length) '0' ++ ds)

/-- A real as a digit with places and a power of ten. -/
def scientific (alternate capital : Bool) (places : Nat) (x : Binary64) : List Char :=
  let s := significant places x
  pointed alternate places s.1 ++ powerText capital s.2

/-- Digits with a point without the zeros at their end. -/
def withoutZeros (ds : List Char) : List Char :=
  if ds.contains '.' then
    ((ds.reverse.dropWhile (· == '0')).dropWhile (· == '.')).reverse
  else ds

/-- A real in the shorter way of the two. -/
def shorter (alternate capital : Bool) (precision : Nat) (x : Binary64) : List Char :=
  let p := max precision 1
  let power := (significant (p - 1) x).2
  if -4 ≤ power ∧ power < p then
    let ds := fixed alternate (p - 1 - power).toNat x
    if alternate then ds else withoutZeros ds
  else
    let s := significant (p - 1) x
    let ds := pointed alternate (p - 1) s.1
    (if alternate then ds else withoutZeros ds) ++ powerText capital power

/-- The least power of two of the first digit of a real in base sixteen. -/
def leastTwoPower : Int := -1022

/-- A real in base sixteen: a natural number with thirteen of its digits after the point, and a
power of two. The digit before the point is a one unless the real is too small for that. -/
def sixteenths (x : Binary64) : Nat × Int :=
  let m := x.significand.natAbs
  if m = 0 then (0, 0)
  else
    let power := max leastTwoPower (x.exponent + Nat.log2 m)
    let shift := x.exponent - power + 52
    (m <<< shift.toNat >>> (-shift).toNat, power)

/-- A natural number with so many of its digits in base sixteen after a point. -/
def pointedSixteenths (places n : Nat) : List Char × List Char :=
  let ds := hexadecimal n
  let ds := List.replicate (places + 1 - ds.length) '0' ++ ds
  (ds.take (ds.length - places), ds.drop (ds.length - places))

/-- A real in base sixteen: a digit with places, and a power of two. -/
def hexadecimalReal (alternate capital : Bool) (precision? : Option Nat) (x : Binary64) :
    List Char :=
  let (n, power) := sixteenths x
  let (whole, places) := match precision? with
    | none =>
      let (whole, places) := pointedSixteenths 13 n
      (whole, (places.reverse.dropWhile (· == '0')).reverse)
    | some p =>
      let (whole, places) := pointedSixteenths (min p 13)
        (Binary64.roundHalfEven n (1 <<< (4 * (13 - p))))
      (whole, places ++ List.replicate (p - 13) '0')
  let ds := whole ++ (if places.isEmpty && !alternate then [] else '.' :: places)
  let ds := ds ++ 'p' :: (if power < 0 then '-' else '+') :: decimal power.natAbs
  if capital then ds.map Char.toUpper else ds

/-- A real as the letter of the directive asks. -/
def real (d : Directive) (letter : Char) (r : Real) : List Char :=
  let kind := letter.toLower
  let capital := letter.isUpper
  let spelled (s : String) : List Char := if capital then s.toList.map Char.toUpper else s.toList
  let precision := d.precision?.getD 6
  match r with
  | .infinite negative => d.align (d.sign negative ++ spelled "inf")
  | .undefined negative => d.align (d.sign negative ++ spelled "nan")
  | .finite negative x =>
    if kind = 'a' then
      d.alignNumber d.zeros (d.sign negative ++ ['0', if capital then 'X' else 'x'])
        (hexadecimalReal d.alternate capital d.precision? x)
    else
      d.alignNumber d.zeros (d.sign negative)
        (if kind = 'f' then fixed d.alternate precision x
          else if kind = 'e' then scientific d.alternate capital precision x
          else shorter d.alternate capital precision x)

end Directive

/-! ## Reading reals -/

/-- A word that a text starts with, in small or capital letters. -/
def startsWithWord (word : String) (text : List Char) : Bool :=
  word.toList.isPrefixOf (text.map Char.toLower)

/-- Digits with a point, the part of a text that they are, their number after the point, and what
follows. Nothing without digits. -/
def readPointed? (isDigit : Char → Bool) (text : List Char) :
    Option (List Char × Nat × List Char) :=
  let whole := text.takeWhile isDigit
  let (places, rest) : List Char × List Char := match text.drop whole.length with
    | '.' :: after => (after.takeWhile isDigit, after.dropWhile isDigit)
    | after => ([], after)
  if whole.isEmpty && places.isEmpty then none else some (whole ++ places, places.length, rest)

/-- A power after its letter, and what follows. Without digits there is none. -/
def readPower (letter : Char) (text : List Char) : Int × List Char :=
  match text with
  | c :: rest =>
    if c.toLower ≠ letter then (0, text)
    else
      let (negative, ds) : Bool × List Char := match rest with
        | '-' :: ds => (true, ds)
        | '+' :: ds => (false, ds)
        | ds => (false, ds)
      let used := ds.takeWhile Char.isDigit
      match natural? used with
      | none => (0, text)
      | some n =>
        let n : Int := min n 100000
        (if negative then -n else n, ds.drop used.length)
  | [] => (0, text)

/-- The size of a real as it is written. -/
inductive WrittenSize where
  | quotient (num den : Nat)
  | infinite
  | undefined

/-- A real as a text starts with it, and what follows. -/
structure WrittenReal where
  negative : Bool
  size : WrittenSize
  rest : List Char

/-- The greatest power of ten that makes a difference. -/
def maxTenPower : Nat := 6000

/-- The greatest power of two that makes a difference. -/
def maxTwoPower : Nat := 20000

/-- What follows the mark in brackets that what is no number may have. -/
def afterMark (text : List Char) : List Char :=
  match text with
  | '(' :: rest =>
    match rest.dropWhile fun c => c.isAlphanum || c == '_' with
    | ')' :: after => after
    | _ => text
  | _ => text

/-- Read a real that a text starts with, as it is written. Nothing if it starts with none. -/
def readWritten? (text : List Char) : Option WrittenReal :=
  let start := text.dropWhile fun c => c == ' ' || (9 ≤ c.toNat && c.toNat ≤ 13)
  let (negative, body) : Bool × List Char := match start with
    | '-' :: rest => (true, rest)
    | '+' :: rest => (false, rest)
    | rest => (false, rest)
  let bounded (most : Nat) (power : Int) : Int := max (-(most : Int)) (min most power)
  let decimalReal : Option WrittenReal :=
    (readPointed? Char.isDigit body).map fun (ds, places, rest) =>
      let (power, rest) := readPower 'e' rest
      let n := ofDigits (ds.filterMap digit?)
      let power := bounded (maxTenPower + ds.length) power - places
      if n = 0 then ⟨negative, .quotient 0 1, rest⟩
      else ⟨negative, .quotient (n * Nat.pow 10 power.toNat) (Nat.pow 10 (-power).toNat), rest⟩
  if startsWithWord "infinity" body then some ⟨negative, .infinite, body.drop 8⟩
  else if startsWithWord "inf" body then some ⟨negative, .infinite, body.drop 3⟩
  else if startsWithWord "nan" body then
    some ⟨negative, .undefined, afterMark (body.drop 3)⟩
  else if startsWithWord "0x" body then
    match readPointed? (fun c => (hexDigit? c).isSome) (body.drop 2) with
    | none => decimalReal
    | some (ds, places, rest) =>
      let (power, rest) := readPower 'p' rest
      let n := (ds.filterMap hexDigit?).foldl (fun n d => 16 * n + d) 0
      let power := bounded (maxTwoPower + 4 * ds.length) power - 4 * places
      if n = 0 then some ⟨negative, .quotient 0 1, rest⟩
      else some ⟨negative, .quotient (n <<< power.toNat) (1 <<< (-power).toNat), rest⟩
  else decimalReal

/-- What was read of a real: its value, whether it is out of range, and what follows. -/
structure ReadReal where
  value : Real
  outOfRange : Bool
  rest : List Char

/-- Read a real that a text starts with. Nothing if it starts with none. -/
def readReal? (text : List Char) : Option ReadReal :=
  (readWritten? text).map fun w =>
    match w.size with
    | .infinite => ⟨.infinite w.negative, false, w.rest⟩
    | .undefined => ⟨.undefined w.negative, false, w.rest⟩
    | .quotient num den =>
      match Binary64.nearest num den with
      | none => ⟨.infinite w.negative, true, w.rest⟩
      | some x => ⟨.finite w.negative x, num ≠ 0 ∧ num <<< 1022 < den, w.rest⟩

end SessionHandoff.Text
