import SessionHandoff.Json.Number

/-!
# Syntax trees of JSON texts

The tree of a text keeps what the grammar of JSON fixes and leaves numbers and escaped code units
as they are written. Values are taken from a tree in a second step, so a reader that skips a part
of a text asks no more of that part than the grammar does.
-/

set_option autoImplicit false

namespace SessionHandoff.Json

/-- A piece of a string: a character, or a code unit that was escaped as four digits. -/
inductive Piece where
  | char (c : Char)
  | unit (code : Nat)
deriving DecidableEq, Repr

namespace Piece

/-- Whether a code unit is the first half of a pair. -/
def isHigh (code : Nat) : Bool := 0xD800 ≤ code && code < 0xDC00

/-- Whether a code unit is the second half of a pair. -/
def isLow (code : Nat) : Bool := 0xDC00 ≤ code && code < 0xE000

/-- The character that a pair of code units stands for. -/
def paired (high low : Nat) : Char :=
  Char.ofNat (0x10000 + (high - 0xD800) * 0x400 + (low - 0xDC00))

/-- The text of a string; a half of a pair that stands alone has none. -/
def text? : List Piece → Option (List Char)
  | [] => some []
  | .char c :: rest => (text? rest).map (c :: ·)
  | .unit code :: rest =>
    if isHigh code then
      match rest with
      | .unit low :: rest' =>
        if isLow low then (text? rest').map (paired code low :: ·) else none
      | _ => none
    else if isLow code then none
    else (text? rest).map (Char.ofNat code :: ·)

/-- The string, if every code unit has its place in it. -/
def string? (pieces : List Piece) : Option String :=
  (text? pieces).map String.ofList

end Piece

/-- The syntax tree of a JSON text. -/
inductive Tree where
  | null
  | flag (b : Bool)
  | number (text : NumberText)
  | text (pieces : List Piece)
  | array (items : List Tree)
  | object (members : List (List Piece × Tree))
deriving Repr

end SessionHandoff.Json
