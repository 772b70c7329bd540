import SessionHandoff.Text.Formatted

/-!
# Orders of texts

The orders in which texts can be sorted: by octets, by the decimal number they start with, by such a
number with a unit, by a real, by the name of a month, and as versions, in which runs of digits
count as numbers. What a text does not start with counts as zero, or comes first.
-/

set_option autoImplicit false

namespace SessionHandoff.Tools.Sorting

/-- Whether an octet is blank or ends a line. -/
def isBlank (c : Char) : Bool :=
  c = ' ' || c = '\t' || c = '\n'

/-- The order of octets. -/
def compareOctets : List Char → List Char → Ordering
  | [], [] => .eq
  | [], _ :: _ => .lt
  | _ :: _, [] => .gt
  | a :: as, b :: bs => (compare a.toNat b.toNat).then (compareOctets as bs)

/-! ## Numbers -/

/-- A decimal number: its digits before the point without zeros in front, and those after the point
without zeros at the end. -/
structure DecimalNumber where
  negative : Bool
  whole : List Char
  places : List Char

namespace DecimalNumber

/-- The number that a text starts with, and what follows it. -/
def read (text : List Char) : DecimalNumber × List Char :=
  let (negative, body) : Bool × List Char := match text with
    | '-' :: rest => (true, rest)
    | _ => (false, text)
  let whole := body.takeWhile Char.isDigit
  let (places, rest) : List Char × List Char := match body.drop whole.length with
    | '.' :: after => (after.takeWhile Char.isDigit, after.dropWhile Char.isDigit)
    | after => ([], after)
  let whole := whole.dropWhile (· == '0')
  let places := (places.reverse.dropWhile (· == '0')).reverse
  (⟨negative && !(whole.isEmpty && places.isEmpty), whole, places⟩, rest)

/-- Whether the number is zero. -/
def isZero (n : DecimalNumber) : Bool :=
  n.whole.isEmpty && n.places.isEmpty

/-- The order of the sizes of numbers. -/
def compareSize (a b : DecimalNumber) : Ordering :=
  (compare a.whole.length b.whole.length).then
    ((compareOctets a.whole b.whole).then (compareOctets a.places b.places))

/-- The order of numbers. -/
def order (a b : DecimalNumber) : Ordering :=
  match a.negative, b.negative with
  | false, false => compareSize a b
  | true, true => compareSize b a
  | true, false => .lt
  | false, true => .gt

end DecimalNumber

/-- The order by the decimal numbers that texts start with. -/
def compareNumbers (a b : List Char) : Ordering :=
  (DecimalNumber.read (a.dropWhile isBlank)).1.order (DecimalNumber.read (b.dropWhile isBlank)).1

/-- The units from the least on. -/
def units : List Char := ['K', 'M', 'G', 'T', 'P', 'E', 'Z', 'Y', 'R', 'Q']

/-- The place of a unit among the units, counted from one. -/
def unitPlace (c : Char) : Nat :=
  let c := if c = 'k' then 'K' else c
  if units.contains c then units.idxOf c + 1 else 0

/-- The order by numbers with units: the unit counts for more than the number. -/
def compareSizes (a b : List Char) : Ordering :=
  let read (text : List Char) : Int × DecimalNumber :=
    let text := text.dropWhile isBlank
    let (n, rest) := DecimalNumber.read text
    let place : Int := if n.isZero then 0 else ((rest.head?.map unitPlace).getD 0 : Nat)
    (if n.negative then -place else place, n)
  let (p, m) := read a
  let (q, n) := read b
  (compare p q).then (m.order n)

/-- The binary digits that a real keeps. -/
def keptDigits : Nat := 64

/-- The least power of two that a real is a multiple of. -/
def leastPower : Int := -16445

/-- The least power of two that is too large for a real. -/
def endPower : Int := 16384

/-- A quotient that is not zero as digits times a power of two, rounded. -/
def rounded (num den : Nat) : Int × Nat :=
  let guess : Int := (Nat.log2 num : Int) - (Nat.log2 den : Int) - (keptDigits - 1 : Nat)
  let (n, d) := Json.Binary64.scaled num den guess
  let power := max (if n < d <<< (keptDigits - 1) then guess - 1 else guess) leastPower
  let (n, d) := Json.Binary64.scaled num den power
  let q := Json.Binary64.roundHalfEven n d
  if q = 1 <<< keptDigits then (power + 1, 1 <<< (keptDigits - 1)) else (power, q)

/-- The place of a real: first what is no number, then the infinite and finite ones. -/
def realPlace (r : Text.WrittenReal) : Nat × Int × Int :=
  match r.size with
  | .undefined => (0, if r.negative then 0 else 1, 0)
  | .infinite => (if r.negative then 1 else 5, 0, 0)
  | .quotient num den =>
    let (power, digits) := if num = 0 then (0, 0) else rounded num den
    if digits = 0 then (3, 0, 0)
    else if endPower - keptDigits < power then (if r.negative then 1 else 5, 0, 0)
    else if r.negative then (2, -power, -digits)
    else (4, power, digits)

/-- The order by reals. Texts that start with none come first. -/
def compareReals (a b : List Char) : Ordering :=
  match Text.readWritten? a, Text.readWritten? b with
  | none, none => .eq
  | none, some _ => .lt
  | some _, none => .gt
  | some x, some y =>
    let (i, m, p) := realPlace x
    let (j, n, q) := realPlace y
    (compare i j).then ((compare m n).then (compare p q))

/-! ## Months -/

/-- The names of the months. -/
def months : List String :=
  ["JAN", "FEB", "MAR", "APR", "MAY", "JUN", "JUL", "AUG", "SEP", "OCT", "NOV", "DEC"]

/-- The month that a text starts with, counted from one; zero for none. -/
def monthOf (text : List Char) : Nat :=
  let name := String.ofList (((text.dropWhile isBlank).take 3).map Char.toUpper)
  if months.contains name then months.idxOf name + 1 else 0

/-! ## Versions -/

/-- How an octet counts among octets that are no digits: a tilde comes before the end of the text,
the end before letters, letters before all else. -/
def versionRank : Option Char → Int
  | none => -1
  | some c =>
    if c.isDigit then 0 else if c.isAlpha then c.toNat else if c = '~' then -2 else c.toNat + 256

/-- The order of what comes before digits, and what is left of both texts. -/
def compareWords : List Char → List Char → Ordering × List Char × List Char
  | a :: as, b :: bs =>
    if a.isDigit && b.isDigit then (.eq, a :: as, b :: bs)
    else
      match compare (versionRank (some a)) (versionRank (some b)) with
      | .eq => compareWords as bs
      | o => (o, as, bs)
  | a :: as, [] =>
    if a.isDigit then (.eq, a :: as, [])
    else (compare (versionRank (some a)) (versionRank none), as, [])
  | [], b :: bs =>
    if b.isDigit then (.eq, [], b :: bs)
    else (compare (versionRank none) (versionRank (some b)), [], bs)
  | [], [] => (.eq, [], [])

/-- The order of texts in which runs of digits count as numbers. -/
def compareRuns : Nat → List Char → List Char → Ordering
  | 0, _, _ => .eq
  | fuel + 1, a, b =>
    if a.isEmpty && b.isEmpty then .eq
    else
      let (o, a, b) := compareWords a b
      let x := a.takeWhile Char.isDigit
      let y := b.takeWhile Char.isDigit
      let m := x.dropWhile (· == '0')
      let n := y.dropWhile (· == '0')
      o.then ((compare m.length n.length).then ((compareOctets m n).then
        (compareRuns fuel (a.drop x.length) (b.drop y.length))))

/-- A text without the endings of files at its start: points with a letter and more letters or
digits. -/
def skipEndings : Nat → List Char → List Char
  | fuel + 1, '.' :: c :: rest =>
    if c.isAlpha || c = '~' then
      skipEndings fuel (rest.dropWhile fun c => c.isAlphanum || c = '~')
    else '.' :: c :: rest
  | _, text => text

/-- The length of a text without the endings of files at its end; its first octet is no part of
them. -/
def lengthWithoutEndings : Nat → List Char → Nat
  | fuel + 1, _ :: rest =>
    let after := skipEndings rest.length rest
    if after.isEmpty then 1
    else 1 + rest.length - after.length + lengthWithoutEndings fuel after
  | _, text => text.length

/-- The order of versions. Hidden names come first, and endings of files count last. -/
def compareVersions (a b : List Char) : Ordering :=
  let rank : List Char → Nat
    | [] => 0
    | ['.'] => 1
    | ['.', '.'] => 2
    | '.' :: _ => 3
    | _ => 4
  match compare (rank a) (rank b) with
  | .eq =>
    if rank a < 3 then .eq
    else
      let fuel := a.length + b.length + 1
      (compareRuns fuel (a.take (lengthWithoutEndings fuel a))
        (b.take (lengthWithoutEndings fuel b))).then (compareRuns fuel a b)
  | o => o

end SessionHandoff.Tools.Sorting
