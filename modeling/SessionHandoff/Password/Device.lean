import SessionHandoff.Cipher.Base64
import SessionHandoff.Cipher.Gcm
import SessionHandoff.Failure.Launch

/-!
# Cipher devices

The exchange of passwords needs three operations: a fresh key, encryption to text, and decryption
from text. A `CipherDevice` is any implementation of the three, with a state of its own and with any
results. `CipherDevice.aesGcm` is the one in use: AES-256 in Galois counter mode, whose state is the
supply of random bytes. `CipherDevice.watched` records the calls made to a device.
-/

set_option autoImplicit false

namespace SessionHandoff

/-- An initial vector and a ciphertext as texts. -/
structure EncryptedText where
  iv : String
  ciphertext : String
deriving DecidableEq, Repr

/-- An operation that may fail and changes a state either way. -/
abbrev DeviceCall (σ α : Type) := StateM σ (Except CryptoError α)

/-- The operations that the exchange of passwords needs. -/
structure CipherDevice (σ : Type) where
  /-- A fresh key. -/
  generateKey : DeviceCall σ Bytes
  /-- Encrypt bytes under a key. -/
  encrypt : Bytes → Bytes → DeviceCall σ EncryptedText
  /-- Decrypt a ciphertext under a key and an initial vector. -/
  decrypt : String → Bytes → String → DeviceCall σ Bytes

/-! ## The device in use -/

/-- The random bytes that are still to be delivered. -/
abbrev Entropy := List UInt8

/-- The next random bytes; nothing is delivered when the supply is too short. -/
def Entropy.draw (n : Nat) : DeviceCall Entropy Bytes := fun supply =>
  if n ≤ supply.length then (.ok (supply.take n), supply.drop n)
  else (.error .randomSource, supply)

namespace AesGcmText

/-- Refuse a key of the wrong length. -/
def checkKey (key : Bytes) : Except CryptoError Unit :=
  if key.length = Aes.keyLength then .ok () else .error (.keyLength Aes.keyLength key.length)

/-- Encrypt bytes under a key and a nonce. -/
def encryptWith (key nonce plain : Bytes) : EncryptedText :=
  ⟨Base64.encode nonce, Base64.encode (Aes.encipher key nonce plain)⟩

/-- Decrypt a text. The key is judged first, then the initial vector, then the ciphertext. -/
def decrypt (ciphertext : String) (key : Bytes) (iv : String) : Except CryptoError Bytes := do
  checkKey key
  let nonce ← (Base64.decode iv).mapError .base64
  if nonce.length ≠ Gcm.nonceLength then throw .cipher
  let sealedBytes ← (Base64.decode ciphertext).mapError .base64
  match Aes.decipher key nonce sealedBytes with
  | some plain => pure plain
  | none => throw .cipher

/-- Encrypt bytes under a key and a fresh nonce. -/
def encrypt (plain key : Bytes) : DeviceCall Entropy EncryptedText := fun supply =>
  match checkKey key with
  | .error e => (.error e, supply)
  | .ok () =>
    match Entropy.draw Gcm.nonceLength supply with
    | (.error e, supply') => (.error e, supply')
    | (.ok nonce, supply') => (.ok (encryptWith key nonce plain), supply')

end AesGcmText

/-- AES-256 in Galois counter mode over a supply of random bytes. -/
def CipherDevice.aesGcm : CipherDevice Entropy where
  generateKey := Entropy.draw Aes.keyLength
  encrypt := AesGcmText.encrypt
  decrypt ciphertext key iv := fun supply => (AesGcmText.decrypt ciphertext key iv, supply)

/-! ## Watching a device -/

/-- A call made to a device. -/
inductive CipherCall where
  | generateKey
  | encrypt (plain key : Bytes)
  | decrypt (ciphertext : String) (key : Bytes) (iv : String)
deriving DecidableEq, Repr

/-- The state of a watched device: its own state and the calls made so far. -/
structure Watched (σ : Type) where
  inner : σ
  calls : List CipherCall := []

/-- Record a call and make it. -/
def Watched.record {σ α : Type} (call : CipherCall) (act : DeviceCall σ α) :
    DeviceCall (Watched σ) α := fun w =>
  let r := act w.inner
  (r.1, ⟨r.2, w.calls ++ [call]⟩)

/-- The device with a record of the calls made to it. -/
def CipherDevice.watched {σ : Type} (device : CipherDevice σ) : CipherDevice (Watched σ) where
  generateKey := Watched.record .generateKey device.generateKey
  encrypt plain key := Watched.record (.encrypt plain key) (device.encrypt plain key)
  decrypt ciphertext key iv :=
    Watched.record (.decrypt ciphertext key iv) (device.decrypt ciphertext key iv)

end SessionHandoff
