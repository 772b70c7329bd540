import SessionHandoff.Characters.Cases
import SessionHandoff.Characters.Letters
import SessionHandoff.Characters.Printed
import SessionHandoff.Text.Octets

/-!
# The characters of a text

Programs read octets, and their environment says how octets make up characters: each by itself, or
by UTF-8. A text is read as codes. A code is the number of a character or, from `strayBase` on,
stands for an octet that belongs to no character, so that no octet is lost.
-/

set_option autoImplicit false

namespace SessionHandoff.Characters

/-- How octets make up characters. -/
inductive Charset where
  | octets
  | utf8
deriving DecidableEq, Repr

/-- The number from which on codes stand for octets that belong to no character. -/
def strayBase : Nat := 0x110000

/-- The first character of an octet text and the number of its octets: the shortest beginning that
encodes a character. -/
def first? (text : List Char) : Option (Nat × Nat) :=
  [1, 2, 3, 4].findSome? fun n =>
    match Utf8.decode? (Octets.toBytes (text.take n)) with
    | some [c] => some (c.toNat, n)
    | _ => none

/-- The codes of a text of which some octets belong to a character already. -/
def codesAfter : Nat → List Char → List Nat
  | _, [] => []
  | skip + 1, _ :: rest => codesAfter skip rest
  | 0, c :: rest =>
    if c.toNat < 128 then c.toNat :: codesAfter 0 rest
    else
      match first? (c :: rest) with
      | some (code, n) => code :: codesAfter (n - 1) rest
      | none => (strayBase + c.toNat) :: codesAfter 0 rest

/-- A condition on characters that has a name. -/
inductive Kind where
  | alpha | upper | lower | digit | xdigit | space | punct | alnum | print | graph | cntrl | blank
deriving DecidableEq, Repr

/-- The kinds, by name. -/
def kinds : List (String × Kind) :=
  [("alpha", .alpha), ("upper", .upper), ("lower", .lower), ("digit", .digit),
    ("xdigit", .xdigit), ("space", .space), ("punct", .punct), ("alnum", .alnum),
    ("print", .print), ("graph", .graph), ("cntrl", .cntrl), ("blank", .blank)]

/-- The ranges of blanks of a line. -/
def blankRanges : List (Nat × Nat) :=
  [(9, 9), (32, 32), (0x1680, 0x1680), (0x2000, 0x2006), (0x2008, 0x200A), (0x205F, 0x205F),
    (0x3000, 0x3000)]

/-- The ranges of blanks. -/
def spaceRanges : List (Nat × Nat) :=
  [(9, 13), (32, 32), (0x1680, 0x1680), (0x2000, 0x2006), (0x2008, 0x200A), (0x2028, 0x2029),
    (0x205F, 0x205F), (0x3000, 0x3000)]

/-- The ranges of characters that control something. -/
def controlRanges : List (Nat × Nat) :=
  [(0, 31), (127, 159), (0x2028, 0x2029)]

/-- The ranges of the digits of hexadecimal numbers. -/
def hexDigitRanges : List (Nat × Nat) :=
  [(48, 57), (65, 70), (97, 102)]

/-- Whether a character is of a kind. -/
def Kind.holds (k : Kind) (n : Nat) : Bool :=
  let isDigit := 48 ≤ n && n ≤ 57
  let leavesMark := isPrinted n && !Text.inRanges n spaceRanges
  match k with
  | .alpha => isLetter n
  | .upper => isCapital n
  | .lower => isSmall n
  | .digit => isDigit
  | .xdigit => Text.inRanges n hexDigitRanges
  | .space => Text.inRanges n spaceRanges
  | .punct => leavesMark && !(isLetter n || isDigit)
  | .alnum => isLetter n || isDigit
  | .print => isPrinted n
  | .graph => leavesMark
  | .cntrl => Text.inRanges n controlRanges
  | .blank => Text.inRanges n blankRanges

namespace Charset

/-- The number of codes that may have a kind. Where octets are characters it is that of ASCII. -/
def size : Charset → Nat
  | .octets => 128
  | .utf8 => strayBase

/-- The codes of a text. -/
def codes : Charset → List Char → List Nat
  | .octets, text => text.map Char.toNat
  | .utf8, text => codesAfter 0 text

/-- The first code of a text, and how many octets it takes. -/
def first : Charset → Char → List Char → Nat × Nat
  | .octets, c, _ => (c.toNat, 1)
  | .utf8, c, rest =>
    if c.toNat < 128 then (c.toNat, 1) else (first? (c :: rest)).getD (strayBase + c.toNat, 1)

/-- The octets of a code. -/
def octetsOf : Charset → Nat → List Char
  | .octets, n => [Char.ofNat n]
  | .utf8, n =>
    if n < strayBase then Octets.ofBytes (Utf8.encodeChar (Char.ofNat n))
    else [Char.ofNat (n - strayBase)]

/-- Whether a code is of a kind. -/
def isKind (cs : Charset) (k : Kind) (n : Nat) : Bool :=
  n < cs.size && k.holds n

/-- The small letter for a code. -/
def toSmall (cs : Charset) (n : Nat) : Nat :=
  if n < cs.size then small n else n

/-- The capital letter for a code. Where octets are characters it is an octet, too. -/
def toCapital (cs : Charset) (n : Nat) : Nat :=
  if n < cs.size then capital n else n

/-! ## Environments -/

/-- The categories of habits that an environment has to know to have any. -/
def categories : List String :=
  ["LC_CTYPE", "LC_NUMERIC", "LC_TIME", "LC_COLLATE", "LC_MONETARY", "LC_MESSAGES", "LC_PAPER",
    "LC_NAME", "LC_ADDRESS", "LC_TELEPHONE", "LC_MEASUREMENT", "LC_IDENTIFICATION"]

/-- The value of a variable that is set and not empty. -/
def setting? (environment : List String) (name : String) : Option String :=
  let start := (name ++ "=").toList
  (environment.find? fun e => start.isPrefixOf e.toList).bind fun e =>
    let value := e.toList.drop start.length
    if value.isEmpty then none else some (String.ofList value)

/-- The name of the habits of a category. -/
def habits (environment : List String) (category : String) : String :=
  ((setting? environment "LC_ALL").orElse fun _ => (setting? environment category).orElse fun _ =>
    setting? environment "LANG").getD "C"

/-- The names of UTF-8, in capital letters. -/
def utf8Names : List String := ["UTF-8", "UTF8"]

/-- The charset of habits with a name, if there are such habits. -/
def named? (name : String) : Option Charset :=
  if name = "C" || name = "POSIX" then some .octets
  else
    let name := name.toList.takeWhile (· ≠ '@')
    let language := name.takeWhile (· ≠ '.')
    let isKnown := language = ['C'] || ['C', '_'].isPrefixOf language
    let charset := (name.drop (language.length + 1)).filter fun c =>
      c.isAlphanum || "_-/.,:".toList.contains c
    let charset := String.ofList (charset.map Char.toUpper)
    if isKnown && !name.contains '/' && utf8Names.contains charset then some .utf8 else none

/-- Whether all habits of an environment are known. -/
def areKnown (environment : List String) : Bool :=
  categories.all fun c => (named? (habits environment c)).isSome

/-- The name of the habits of a category that hold: unless all habits are known, the plain ones. -/
def habitsHeld (environment : List String) (category : String) : String :=
  if areKnown environment then habits environment category else "C"

/-- Whether habits with a name are the plain ones. -/
def arePlain (name : String) : Bool :=
  name = "C" || name = "POSIX"

/-- The charset of an environment. Unless all its habits are known, octets are characters. -/
def ofEnvironment (environment : List String) : Charset :=
  (named? (habitsHeld environment "LC_CTYPE")).getD .octets

end Charset

end SessionHandoff.Characters
