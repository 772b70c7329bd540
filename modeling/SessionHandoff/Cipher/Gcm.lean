import SessionHandoff.Cipher.Aes

/-!
# Authenticated encryption in Galois counter mode

The mode turns a block cipher into a cipher for byte sequences of any length. A sequence is added to
a key stream, which encrypts successive counters, and a tag of sixteen bytes is put after it. The
tag is a polynomial in a secret point over the field with 2^128 elements, whose coefficients are the
blocks of the ciphertext and the block of its length, plus one more block of the cipher.

`encipher` and `decipher` take any function on blocks as the cipher; `Aes.encipher` and
`Aes.decipher` fix it. No data besides the text is authenticated.
-/

set_option autoImplicit false

namespace SessionHandoff.Gcm

/-- The length of a nonce in bytes. -/
def nonceLength : Nat := 12

/-- The length of a tag in bytes. -/
def tagLength : Nat := 16

/-! ## The key stream -/

/-- The number of blocks that a number of bytes fills or begins. -/
def blockCount (length : Nat) : Nat := (length + 15) / 16

/-- The next counter: the last 32 bits of the block count, the others stay. -/
def nextCounter (counter : Block) : Block :=
  let n := counter.toNat
  BitVec.ofNat 128 (n >>> 32 <<< 32 + (n + 1) % 1 <<< 32)

/-- So many blocks of the key stream from a counter on. -/
def keyStream (cipher : Block → Block) : Block → Nat → Bytes
  | _, 0 => []
  | counter, n + 1 => (cipher counter).toBytes ++ keyStream cipher (nextCounter counter) n

@[simp] theorem length_keyStream (cipher : Block → Block) (counter : Block) (n : Nat) :
    (keyStream cipher counter n).length = 16 * n := by
  induction n generalizing counter with
  | zero => rfl
  | succ n ih => simp [keyStream, ih]; omega

/-- A byte sequence plus the key stream from a counter on. -/
def crypt (cipher : Block → Block) (counter : Block) (bytes : Bytes) : Bytes :=
  List.zipWith (· ^^^ ·) bytes (keyStream cipher counter (blockCount bytes.length))

/-! ## The tag -/

/-- Divide by x in the field, where the most significant bit is the coefficient of 1. -/
def timesX (v : Block) : Block :=
  if v.getLsbD 0 then (v >>> 1) ^^^ (0xE1#128 <<< 120) else v >>> 1

/-- The product in the field of the `n` bits of `a` from position `n - 1` down with `v`. -/
def product (a : Block) : Nat → Block → Block
  | 0, _ => 0
  | n + 1, v => (if a.getLsbD n then v else 0) ^^^ product a n (timesX v)

/-- The blocks of a byte sequence, the last one filled up with zeros. -/
def blocks : Nat → Bytes → List Block
  | 0, _ => []
  | n + 1, bytes => Block.ofBytes (bytes.take 16) :: blocks n (bytes.drop 16)

/-- The value of the polynomial at a point. -/
def hash (point : Block) (coefficients : List Block) : Block :=
  coefficients.foldl (fun y x => product (y ^^^ x) 128 point) 0

/-- The first counter of a nonce. -/
def firstCounter (nonce : Bytes) : Block :=
  Block.ofBytes (nonce ++ [0, 0, 0, 1])

/-- The tag of a ciphertext. -/
def tag (cipher : Block → Block) (nonce ciphertext : Bytes) : Bytes :=
  let lengthBlock := BitVec.ofNat 128 (8 * ciphertext.length)
  let coefficients := blocks (blockCount ciphertext.length) ciphertext ++ [lengthBlock]
  (hash (cipher 0) coefficients ^^^ cipher (firstCounter nonce)).toBytes

@[simp] theorem length_tag (cipher : Block → Block) (nonce ciphertext : Bytes) :
    (tag cipher nonce ciphertext).length = tagLength := by
  simp [tag, tagLength]

/-! ## Enciphering -/

/-- The ciphertext of a byte sequence with its tag after it. -/
def encipher (cipher : Block → Block) (nonce plain : Bytes) : Bytes :=
  let body := crypt cipher (nextCounter (firstCounter nonce)) plain
  body ++ tag cipher nonce body

/-- The byte sequence of a ciphertext with a tag, if the tag belongs to it. -/
def decipher (cipher : Block → Block) (nonce sealed : Bytes) : Option Bytes :=
  if sealed.length < tagLength then none
  else
    let body := sealed.take (sealed.length - tagLength)
    if sealed.drop (sealed.length - tagLength) = tag cipher nonce body then
      some (crypt cipher (nextCounter (firstCounter nonce)) body)
    else none

end SessionHandoff.Gcm

namespace SessionHandoff.Aes

/-- The length of a key in bytes. -/
def keyLength : Nat := 32

/-- Encipher with AES-256 in Galois counter mode. -/
def encipher (key nonce plain : Bytes) : Bytes :=
  Gcm.encipher (encrypt key) nonce plain

/-- Decipher with AES-256 in Galois counter mode. -/
def decipher (key nonce sealed : Bytes) : Option Bytes :=
  Gcm.decipher (encrypt key) nonce sealed

end SessionHandoff.Aes
