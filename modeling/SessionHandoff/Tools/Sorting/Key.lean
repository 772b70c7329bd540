import SessionHandoff.Tools.Sorting.Amount
import SessionHandoff.Tools.Sorting.Digest

/-!
# Keys

A key is a part of a line, given by the fields in which it starts and ends, and an order for it.
Fields are separated by an octet, or each starts with the blanks before it. Lines are compared by
their keys, the first that differs counts; then, unless that is not wanted, as a whole.
-/

set_option autoImplicit false

namespace SessionHandoff.Tools.Sorting

/-- The octets that a key leaves out. -/
inductive LeftOut where
  | nothing
  /-- All but letters, digits and blanks. -/
  | marks
  /-- All that cannot be shown. -/
  | hidden
deriving DecidableEq

/-- How texts are compared. -/
structure Style where
  blanksBefore : Bool := false
  blanksBeforeEnd : Bool := false
  leftOut : LeftOut := .nothing
  fold : Bool := false
  real : Bool := false
  size : Bool := false
  month : Bool := false
  number : Bool := false
  random : Bool := false
  version : Bool := false
  reverse : Bool := false
deriving DecidableEq

/-- A key. -/
structure Key where
  /-- The field in which it starts, counted from zero; without one it starts with the line. -/
  startField? : Option Nat := none
  startOffset : Nat := 0
  /-- The field in which it ends, counted from zero; without one it ends with the line. -/
  endField? : Option Nat := none
  /-- How far it reaches into that field; zero for all of it. -/
  endOffset : Nat := 0
  style : Style := {}
  /-- Whether it was given as an operand. -/
  old : Bool := false

/-- What decides an order by chance. -/
structure Chance where
  seed : List UInt8 := List.replicate 16 0
  /-- Whether texts that are not empty end with the octet zero. -/
  closed : Bool := false

/-- The digest by which a text is put in an order by chance. -/
def Chance.digest (c : Chance) (text : List Char) : List Nat :=
  let zero := Char.ofNat 0
  let text := if c.closed && text.getLast?.any (· ≠ zero) then text ++ [zero] else text
  (Digest.ofOctets (c.seed ++ Octets.toBytes text)).octets.map UInt8.toNat

/-- The order of texts by chance. -/
def Chance.order (c : Chance) (a b : List Char) : Ordering :=
  (compare (c.digest a) (c.digest b)).then (compareOctets a b)

namespace Style

/-- The ends of a key that a letter of its style is given for. -/
inductive Place where
  | start | stop | both
deriving DecidableEq

/-- A style with a letter given. Nothing for other letters. -/
def with? (s : Style) (place : Place) (letter : Char) : Option Style :=
  match letter with
  | 'b' => some { s with
      blanksBefore := s.blanksBefore || place != .stop
      blanksBeforeEnd := s.blanksBeforeEnd || place != .start }
  | 'd' => some { s with leftOut := .marks }
  | 'f' => some { s with fold := true }
  | 'g' => some { s with real := true }
  | 'h' => some { s with size := true }
  | 'i' => some { s with leftOut := if s.leftOut = .nothing then .hidden else s.leftOut }
  | 'M' => some { s with month := true }
  | 'n' => some { s with number := true }
  | 'R' => some { s with random := true }
  | 'r' => some { s with reverse := true }
  | 'V' => some { s with version := true }
  | _ => none

/-- A style with the letters at the start of a text given, and the rest of the text. -/
def withLetters (s : Style) (place : Place) : List Char → Style × List Char
  | [] => (s, [])
  | c :: rest =>
    match s.with? place c with
    | some s => s.withLetters place rest
    | none => (s, c :: rest)

/-- Whether nothing but perhaps the direction was asked for. -/
def isPlain (s : Style) : Bool :=
  { s with reverse := false } = ({} : Style)

/-- The letters of a style. -/
def letters (s : Style) : String :=
  (if s.blanksBefore || s.blanksBeforeEnd then "b" else "") ++
    (if s.leftOut = .marks then "d" else "") ++ (if s.fold then "f" else "") ++
    (if s.real then "g" else "") ++ (if s.size then "h" else "") ++
    (if s.leftOut = .hidden then "i" else "") ++ (if s.month then "M" else "") ++
    (if s.number then "n" else "") ++ (if s.random then "R" else "") ++
    (if s.reverse then "r" else "") ++ (if s.version then "V" else "")

/-- Whether the order is one of numbers. -/
def isNumeric (s : Style) : Bool :=
  s.number || s.real || s.size

/-- Whether the style asks for two orders at once. -/
def isContradictory (s : Style) : Bool :=
  1 < ([s.number, s.real, s.size, s.month,
    s.version || s.random || s.leftOut != .nothing].filter id).length

/-- Whether an octet is left out. -/
def drops (s : Style) (c : Char) : Bool :=
  match s.leftOut with
  | .nothing => false
  | .marks => !(c.isAlphanum || isBlank c)
  | .hidden => !isShown c

/-- The order of keys with this style. -/
def order (s : Style) (chance : Chance) (a b : List Char) : Ordering :=
  let used (text : List Char) : List Char :=
    let text := if s.leftOut = .nothing then text else text.filter fun c => !s.drops c
    if s.fold then text.map Char.toUpper else text
  let a := used a
  let b := used b
  if s.number then compareNumbers a b
  else if s.real then compareReals a b
  else if s.size then compareSizes a b
  else if s.month then compare (monthOf a) (monthOf b)
  else if s.random then chance.order a b
  else if s.version then compareVersions a b
  else compareOctets a b

end Style

/-! ## Parts of lines -/

/-- A line after so many fields. -/
def dropFields (separator? : Option Char) : Nat → List Char → List Char
  | 0, text => text
  | n + 1, text =>
    match separator? with
    | some c => dropFields separator? n ((text.dropWhile (· != c)).drop 1)
    | none => dropFields separator? n ((text.dropWhile isBlank).dropWhile fun c => !isBlank c)

namespace Key

/-- Where a key starts in a line. -/
def start (k : Key) (separator? : Option Char) (line : List Char) : Nat :=
  let field := match k.startField? with
    | some n => dropFields separator? (min n line.length) line
    | none => line
  let field := if k.style.blanksBefore then field.dropWhile isBlank else field
  line.length - (field.drop k.startOffset).length

/-- Where a key ends in a line. -/
def stop (k : Key) (separator? : Option Char) (line : List Char) : Nat :=
  match k.endField? with
  | none => line.length
  | some n =>
    let n := min n line.length
    if k.endOffset = 0 then
      let field := dropFields separator? n line
      match separator? with
      | some c => line.length - (field.dropWhile (· != c)).length
      | none => line.length - (dropFields separator? 1 field).length
    else
      let field := dropFields separator? n line
      let field := if k.style.blanksBeforeEnd then field.dropWhile isBlank else field
      line.length - (field.drop k.endOffset).length

/-- The part of a line that a key is. -/
def part (k : Key) (separator? : Option Char) (line : List Char) : List Char :=
  let i := k.start separator? line
  (line.drop i).take (k.stop separator? line - i)

/-- The order of lines by a key. -/
def order (k : Key) (chance : Chance) (separator? : Option Char) (a b : List Char) : Ordering :=
  let o := k.style.order chance (k.part separator? a) (k.part separator? b)
  if k.style.reverse then o.swap else o

end Key

/-! ## Reading keys -/

/-- The number that a text starts with, or the complaint that it has to start with one. -/
def readCount (where_ : String) (text : List Char) : ToolM Amount := do
  match Amount.read? text with
  | some a => return a
  | none =>
    fail ("invalid number " ++ where_ ++ ": invalid count at start of " ++
      (← inQuotes (String.ofList text)))

/-- Complain about a key. -/
def refuseKey {α : Type} (text reason : String) : ToolM α := do
  fail (reason ++ ": invalid field specification " ++ (← inQuotes text))

/-- Read how far a key reaches into its last field; zero stands for all of it. -/
def readOffset (text : List Char) : ToolM (Nat × List Char) := do
  match text with
  | '.' :: rest =>
    let a ← readCount "after '.'" rest
    return (a.value, a.rest)
  | _ => return (0, text)

/-- Read a key. -/
def readKey (text : String) : ToolM Key := do
  let a ← readCount "at field start" text.toList
  let field := a.value
  if field = 0 then refuseKey text "field number is zero"
  let (offset, rest) ← match a.rest with
    | '.' :: rest => do
      let a ← readCount "after '.'" rest
      if a.value = 0 then refuseKey text "character offset is zero"
      pure (a.value, a.rest)
    | rest => pure (1, rest)
  let (style, rest) := ({} : Style).withLetters .start rest
  let start : Key :=
    { startField? := if field = 1 ∧ offset = 1 then none else some (field - 1)
      startOffset := offset - 1, style }
  match rest with
  | ',' :: rest =>
    let a ← readCount "after ','" rest
    if a.value = 0 then refuseKey text "field number is zero"
    let (offset, rest) ← readOffset a.rest
    let (style, rest) := style.withLetters .stop rest
    if !rest.isEmpty then refuseKey text "stray character in field spec"
    return { start with endField? := some (a.value - 1), endOffset := offset, style }
  | [] => return start
  | _ => refuseKey text "stray character in field spec"

/-- A field counted from zero. The greatest number stands for none. -/
def field? (n : Nat) : Option Nat :=
  if n = Amount.greatest then none else some n

/-- Read a key that is an operand after a plus sign, up to the operand after a dash if there is one.
Nothing if the operand is no key. -/
def readOldKey (operand : String) (stop? : Option String) : ToolM (Option Key) := do
  let some a := Amount.read? (operand.toList.drop 1) | return none
  let offset? := match a.rest with
    | '.' :: rest => Amount.read? rest
    | rest => some ⟨0, false, rest⟩
  let some b := offset? | return none
  let (style, rest) := ({} : Style).withLetters .start b.rest
  if !rest.isEmpty then return none
  let start : Key :=
    { startField? := if a.value = 0 ∧ b.value = 0 then none else field? a.value
      startOffset := b.value, style, old := true }
  let some stop := stop? | return some start
  let a ← readCount "after '-'" (stop.toList.drop 1)
  let (offset, rest) ← readOffset a.rest
  let (style, rest) := style.withLetters .stop rest
  if !rest.isEmpty then refuseKey stop "stray character in field spec"
  let endField? := field? (if offset = 0 then a.value - 1 else a.value)
  return some { start with endField?, endOffset := offset, style }

end SessionHandoff.Tools.Sorting
