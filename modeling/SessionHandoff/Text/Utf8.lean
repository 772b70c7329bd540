/-!
# UTF-8

Texts are lists of characters and travel as lists of bytes. `encode` writes a text; `decode?` reads
bytes and refuses every sequence that is not the encoding of a text; `decodeLossy` reads any bytes
and puts the replacement character where the sequence goes wrong.

The reader takes one byte at a time. Between bytes it knows the character begun so far, how many
bytes it still owes, and the range that the next byte has to lie in. The range rules out overlong
forms, surrogates and values above U+10FFFF at the earliest byte.
-/

set_option autoImplicit false

namespace SessionHandoff

/-- A finite sequence of bytes. -/
abbrev Bytes := List UInt8

namespace Utf8

/-! ## Writing -/

/-- The bytes of one character. -/
def encodeChar (c : Char) : Bytes :=
  let n := c.toNat
  if n < 0x80 then [n.toUInt8]
  else if n < 0x800 then [(0xC0 + n / 64).toUInt8, (0x80 + n % 64).toUInt8]
  else if n < 0x10000 then
    [(0xE0 + n / 4096).toUInt8, (0x80 + n / 64 % 64).toUInt8, (0x80 + n % 64).toUInt8]
  else
    [(0xF0 + n / 262144).toUInt8, (0x80 + n / 4096 % 64).toUInt8, (0x80 + n / 64 % 64).toUInt8,
      (0x80 + n % 64).toUInt8]

/-- The bytes of a text. -/
def encode (text : List Char) : Bytes :=
  text.flatMap encodeChar

/-- The bytes of a string. -/
def ofString (s : String) : Bytes :=
  encode s.toList

@[simp] theorem encode_nil : encode [] = [] := rfl

@[simp] theorem encode_cons (c : Char) (text : List Char) :
    encode (c :: text) = encodeChar c ++ encode text := by
  simp [encode]

/-! ## Reading -/

/-- A character that is begun and not finished. -/
structure Pending where
  /-- The bits read so far. -/
  value : Nat
  /-- The bytes still owed after the next one. -/
  owed : Nat
  /-- The least value of the next byte. -/
  least : Nat
  /-- The greatest value of the next byte. -/
  greatest : Nat
deriving DecidableEq, Repr

/-- What a byte that starts a character says. -/
inductive Lead where
  | whole (c : Char)
  | opens (p : Pending)
  | stray
deriving DecidableEq, Repr

/-- The meaning of a first byte. -/
def lead (b : UInt8) : Lead :=
  let n := b.toNat
  if n < 0x80 then .whole (Char.ofNat n)
  else if n < 0xC2 then .stray
  else if n < 0xE0 then .opens ⟨n - 0xC0, 0, 0x80, 0xBF⟩
  else if n = 0xE0 then .opens ⟨0, 1, 0xA0, 0xBF⟩
  else if n = 0xED then .opens ⟨0xD, 1, 0x80, 0x9F⟩
  else if n < 0xF0 then .opens ⟨n - 0xE0, 1, 0x80, 0xBF⟩
  else if n = 0xF0 then .opens ⟨0, 2, 0x90, 0xBF⟩
  else if n < 0xF4 then .opens ⟨n - 0xF0, 2, 0x80, 0xBF⟩
  else if n = 0xF4 then .opens ⟨4, 2, 0x80, 0x8F⟩
  else .stray

/-- Whether a byte continues the pending character. -/
def Pending.admits (p : Pending) (b : UInt8) : Bool :=
  p.least ≤ b.toNat && b.toNat ≤ p.greatest

/-- The bits of the pending character with one more byte. -/
def Pending.extended (p : Pending) (b : UInt8) : Nat :=
  p.value * 64 + (b.toNat - 0x80)

/-- The pending character after a byte that is not its last. -/
def Pending.next (p : Pending) (b : UInt8) (owed : Nat) : Pending :=
  ⟨p.extended b, owed, 0x80, 0xBF⟩

/-- Read bytes, starting inside the pending character if there is one. -/
def decodeFrom : Option Pending → Bytes → Option (List Char)
  | none, [] => some []
  | some _, [] => none
  | none, b :: rest =>
    match lead b with
    | .whole c => (decodeFrom none rest).map (c :: ·)
    | .opens p => decodeFrom (some p) rest
    | .stray => none
  | some p, b :: rest =>
    if p.admits b then
      match p.owed with
      | 0 => (decodeFrom none rest).map (Char.ofNat (p.extended b) :: ·)
      | owed + 1 => decodeFrom (some (p.next b owed)) rest
    else none

/-- The text that the bytes encode, if they encode one. -/
def decode? (bytes : Bytes) : Option (List Char) :=
  decodeFrom none bytes

/-- The string that the bytes encode, if they encode one. -/
def toString? (bytes : Bytes) : Option String :=
  (decode? bytes).map String.ofList

/-- The character that stands for bytes that encode nothing. -/
def replacement : Char := Char.ofNat 0xFFFD

/-- Read bytes and put one replacement for each longest part that could still have become a
character. -/
def decodeLossyFrom : Option Pending → Bytes → List Char
  | none, [] => []
  | some _, [] => [replacement]
  | none, b :: rest =>
    match lead b with
    | .whole c => c :: decodeLossyFrom none rest
    | .opens p => decodeLossyFrom (some p) rest
    | .stray => replacement :: decodeLossyFrom none rest
  | some p, b :: rest =>
    if p.admits b then
      match p.owed with
      | 0 => Char.ofNat (p.extended b) :: decodeLossyFrom none rest
      | owed + 1 => decodeLossyFrom (some (p.next b owed)) rest
    else
      match lead b with
      | .whole c => replacement :: c :: decodeLossyFrom none rest
      | .opens q => replacement :: decodeLossyFrom (some q) rest
      | .stray => replacement :: replacement :: decodeLossyFrom none rest

/-- The text of any bytes, with replacements. -/
def decodeLossy (bytes : Bytes) : List Char :=
  decodeLossyFrom none bytes

end Utf8

end SessionHandoff
