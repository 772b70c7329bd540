import SessionHandoff.Text.Blank
import SessionHandoff.Text.Digits
import SessionHandoff.Text.Utf8

/-!
# Base64

Three bytes are four symbols of six bits. The last group of a text is padded to four symbols, and
the bits that its last symbol does not need are zero, so every byte sequence has one text. `decode`
takes blank characters off both ends first; the offsets in its errors count bytes of what is left.
-/

set_option autoImplicit false

namespace SessionHandoff.Base64

/-! ## Symbols -/

/-- The symbol of a value below 64. -/
def symbol (n : Nat) : Char :=
  if n < 26 then Char.ofNat (65 + n)
  else if n < 52 then Char.ofNat (71 + n)
  else if n < 62 then Char.ofNat (n - 4)
  else if n = 62 then '+'
  else '/'

/-- The value of the byte of a symbol. -/
def symbolValue? (b : UInt8) : Option Nat :=
  let n := b.toNat
  if 65 ≤ n ∧ n ≤ 90 then some (n - 65)
  else if 97 ≤ n ∧ n ≤ 122 then some (n - 71)
  else if 48 ≤ n ∧ n ≤ 57 then some (n + 4)
  else if n = 43 then some 62
  else if n = 47 then some 63
  else none

/-- The byte that fills up the last group. -/
def pad : UInt8 := 61

/-! ## Writing -/

/-- The symbols of a byte sequence. -/
def encodeChars : Bytes → List Char
  | a :: b :: c :: rest =>
    symbol (a.toNat / 4) :: symbol (a.toNat % 4 * 16 + b.toNat / 16) ::
      symbol (b.toNat % 16 * 4 + c.toNat / 64) :: symbol (c.toNat % 64) :: encodeChars rest
  | [a, b] =>
    [symbol (a.toNat / 4), symbol (a.toNat % 4 * 16 + b.toNat / 16), symbol (b.toNat % 16 * 4), '=']
  | [a] => [symbol (a.toNat / 4), symbol (a.toNat % 4 * 16), '=', '=']
  | [] => []

/-- The text of a byte sequence. -/
def encode (bytes : Bytes) : String :=
  String.ofList (encodeChars bytes)

/-! ## Reading -/

/-- Why a text is no encoding. -/
inductive DecodeError where
  /-- A byte that may not stand at its offset. -/
  | invalidSymbol (byte : UInt8) (offset : Nat)
  /-- A last group of fewer than two symbols; the number counts the symbols of the text. -/
  | invalidLength (length : Nat)
  /-- A last group that is not filled up to four. -/
  | invalidPadding
  /-- A last symbol with bits that belong to no byte. -/
  | invalidLastSymbol (byte : UInt8) (offset : Nat)
deriving DecidableEq, Repr

/-- The wording of an error. -/
def DecodeError.message : DecodeError → String
  | .invalidSymbol byte offset =>
    "Invalid symbol " ++ Text.decimalString byte.toNat ++ ", offset " ++
      Text.decimalString offset ++ "."
  | .invalidLength length => "Invalid input length: " ++ Text.decimalString length
  | .invalidPadding => "Invalid padding"
  | .invalidLastSymbol byte offset =>
    "Invalid last symbol " ++ Text.decimalString byte.toNat ++ ", offset " ++
      Text.decimalString offset ++ "."

/-- The value of a byte that has to be a symbol. -/
def valueAt (offset : Nat) (b : UInt8) : Except DecodeError Nat :=
  match symbolValue? b with
  | some n => .ok n
  | none => .error (.invalidSymbol b offset)

/-- The bytes of four symbols. -/
def quadBytes (w x y z : Nat) : Bytes :=
  [(w * 4 + x / 16).toUInt8, (x % 16 * 16 + y / 4).toUInt8, (y % 4 * 64 + z).toUInt8]

/-- The values of the symbols of the last group and the number of bytes that fill it up. The first
argument is the offset of the group, the second the index in it. -/
def scanFinal (offset : Nat) : Nat → Bytes → Except DecodeError (List Nat × Nat)
  | _, [] => .ok ([], 0)
  | i, b :: rest =>
    if b = pad then
      if i < 2 then .error (.invalidSymbol pad (offset + i))
      else if rest.all (· == pad) then .ok ([], rest.length + 1)
      else .error (.invalidSymbol pad (offset + i))
    else do
      let v ← valueAt (offset + i) b
      let (vs, pads) ← scanFinal offset (i + 1) rest
      pure (v :: vs, pads)

/-- The bytes of the last group, of at most four bytes of text. -/
def decodeFinal (offset : Nat) (group : Bytes) : Except DecodeError Bytes := do
  let (values, pads) ← scanFinal offset 0 group
  match values, pads with
  | [], _ => pure []
  | [_], _ => throw (.invalidLength (offset + 1))
  | [w, x], 2 =>
    if x % 16 = 0 then pure [(w * 4 + x / 16).toUInt8]
    else throw (.invalidLastSymbol (symbol x).toNat.toUInt8 (offset + 1))
  | [w, x, y], 1 =>
    if y % 4 = 0 then pure [(w * 4 + x / 16).toUInt8, (x % 16 * 16 + y / 4).toUInt8]
    else throw (.invalidLastSymbol (symbol y).toNat.toUInt8 (offset + 2))
  | [w, x, y, z], 0 => pure (quadBytes w x y z)
  | _, _ => throw .invalidPadding

/-- The bytes of the groups from an offset on. -/
def decodeGroups (offset : Nat) : Bytes → Except DecodeError Bytes
  | a :: b :: c :: d :: rest =>
    if rest.isEmpty then decodeFinal offset [a, b, c, d]
    else do
      let w ← valueAt offset a
      let x ← valueAt (offset + 1) b
      let y ← valueAt (offset + 2) c
      let z ← valueAt (offset + 3) d
      let tail ← decodeGroups (offset + 4) rest
      pure (quadBytes w x y z ++ tail)
  | group => decodeFinal offset group

/-- The last byte of a text that is one byte too long, if that byte can stand nowhere. -/
def strayLast? (text : Bytes) : Option UInt8 :=
  if text.length % 4 = 1 then
    text.getLast?.filter fun b => b != pad && (symbolValue? b).isNone
  else none

/-- The bytes that a text without blank ends encodes. -/
def decodeBytes (text : Bytes) : Except DecodeError Bytes :=
  match strayLast? text with
  | some b => .error (.invalidSymbol b (text.length - 1))
  | none => decodeGroups 0 text

/-- The bytes that a text encodes, blank characters at its ends aside. -/
def decode (text : String) : Except DecodeError Bytes :=
  decodeBytes (Utf8.encode (Text.trim text.toList))

end SessionHandoff.Base64
