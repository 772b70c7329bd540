import SessionHandoff.Text.Utf8

/-!
# The block cipher AES-256

A block is a word of 128 bits, whose most significant byte comes first. A key of 32 bytes is
expanded to fifteen round keys. A round substitutes every byte, rotates the rows, mixes the columns
and adds a round key; the last round does not mix.

Bytes are polynomials over the field with two elements, taken modulo x^8 + x^4 + x^3 + x + 1. The
substitution is the inverse in that field followed by an affine map.
-/

set_option autoImplicit false

namespace SessionHandoff

/-- A block of the cipher. -/
abbrev Block := BitVec 128

namespace Block

/-- The sixteen bytes of a block, most significant first. -/
def toBytes (b : Block) : Bytes :=
  (List.range 16).map fun i => (b.toNat >>> (8 * (15 - i))).toUInt8

/-- The number whose digits to the base 256 are the bytes. -/
def number (bytes : Bytes) : Nat :=
  bytes.foldl (fun n b => n * 256 + b.toNat) 0

/-- The block of at most sixteen bytes, filled up with zeros at its end. -/
def ofBytes (bytes : Bytes) : Block :=
  BitVec.ofNat 128 (number ((bytes ++ List.replicate 16 0).take 16))

@[simp] theorem length_toBytes (b : Block) : b.toBytes.length = 16 := by
  simp [toBytes]

end Block

namespace Aes

/-! ## Bytes as field elements -/

/-- The product with x. -/
def timesX (b : UInt8) : UInt8 :=
  if b &&& 0x80 = 0 then b <<< 1 else (b <<< 1) ^^^ 0x1B

/-- The product of two bytes, from the lowest `n` bits of the second. -/
def product : Nat → UInt8 → UInt8 → UInt8
  | 0, _, _ => 0
  | n + 1, a, b => (if b &&& 1 = 0 then 0 else a) ^^^ product n (timesX a) (b >>> 1)

/-- The square of a byte. -/
def square (a : UInt8) : UInt8 := product 8 a a

/-- The inverse of a byte, which is its 254th power; the inverse of zero is zero. -/
def inverse (a : UInt8) : UInt8 :=
  go 7 (square a) 1
where
  /-- Multiply so many successive squares together. -/
  go : Nat → UInt8 → UInt8 → UInt8
    | 0, _, acc => acc
    | n + 1, s, acc => go n (square s) (product 8 acc s)

/-- A byte rotated to the left. -/
def rotate (b : UInt8) (n : UInt8) : UInt8 :=
  (b <<< n) ||| (b >>> (8 - n))

/-- The substitution of a byte. -/
def substituted (b : UInt8) : UInt8 :=
  let i := inverse b
  i ^^^ rotate i 1 ^^^ rotate i 2 ^^^ rotate i 3 ^^^ rotate i 4 ^^^ 0x63

/-- The substitutions of all bytes. -/
def substitutions : Array UInt8 :=
  ((List.range 256).map fun n => substituted n.toUInt8).toArray

/-- The substitution of a byte, looked up. -/
def substitute (b : UInt8) : UInt8 :=
  substitutions.getD b.toNat 0

/-! ## Round keys -/

/-- The sum of two byte sequences of one length. -/
def add (a b : Bytes) : Bytes :=
  List.zipWith (· ^^^ ·) a b

/-- The word that the first word of a group is changed by. -/
def turned (constant : UInt8) : Bytes → Bytes
  | [a, b, c, d] => [substitute b ^^^ constant, substitute c, substitute d, substitute a]
  | word => word

/-- The words of a group, made from the words of the group before. The first argument is the word
before, the second the position in the group. -/
def nextWords (constant : UInt8) (before : Bytes) : Nat → List Bytes → List Bytes
  | _, [] => []
  | i, old :: rest =>
    let change :=
      if i = 0 then turned constant before
      else if i = 4 then before.map substitute
      else before
    let word := add old change
    word :: nextWords constant word (i + 1) rest

/-- A number of groups of eight words, each made from the one before. -/
def groups : Nat → UInt8 → List Bytes → List Bytes
  | 0, _, _ => []
  | n + 1, constant, group =>
    let next := nextWords constant (group.getLastD []) 0 group
    group ++ groups n (timesX constant) next

/-- So many pieces of a size. -/
def pieces (size : Nat) : Nat → Bytes → List Bytes
  | 0, _ => []
  | n + 1, bytes => bytes.take size :: pieces size n (bytes.drop size)

/-- The fifteen round keys of a key of 32 bytes. -/
def roundKeys (key : Bytes) : List Bytes :=
  pieces 16 15 (groups 8 1 (pieces 4 8 key)).flatten

/-! ## Rounds -/

/-- Rotate the rows of a block; its columns stand one after the other. -/
def rotateRows : Bytes → Bytes
  | [a0, a1, a2, a3, b0, b1, b2, b3, c0, c1, c2, c3, d0, d1, d2, d3] =>
    [a0, b1, c2, d3, b0, c1, d2, a3, c0, d1, a2, b3, d0, a1, b2, c3]
  | other => other

/-- Mix each column. -/
def mixColumns : Bytes → Bytes
  | a :: b :: c :: d :: rest =>
    (timesX a ^^^ timesX b ^^^ b ^^^ c ^^^ d) :: (a ^^^ timesX b ^^^ timesX c ^^^ c ^^^ d) ::
      (a ^^^ b ^^^ timesX c ^^^ timesX d ^^^ d) :: (timesX a ^^^ a ^^^ b ^^^ c ^^^ timesX d) ::
      mixColumns rest
  | other => other

/-- The rounds with the given keys. -/
def rounds : List Bytes → Bytes → Bytes
  | [], s => s
  | [last], s => add (rotateRows (s.map substitute)) last
  | key :: rest, s => rounds rest (add (mixColumns (rotateRows (s.map substitute))) key)

/-- Encrypt a block with round keys. -/
def encryptWith (keys : List Bytes) (b : Block) : Block :=
  match keys with
  | [] => b
  | first :: rest => Block.ofBytes (rounds rest (add b.toBytes first))

/-- Encrypt a block with a key of 32 bytes. -/
def encrypt (key : Bytes) : Block → Block :=
  encryptWith (roundKeys key)

end Aes

end SessionHandoff
