import SessionHandoff.Password.Device
import SessionHandoff.Profile.Basic

/-!
# Exchanging a password for a key

Encryption takes the password out of a profile, puts the key text in its place and hands out the
ciphertext. Decryption takes the key text out, puts the password back and needs the ciphertext. The
key text is the key and the initial vector, both in base64, with one separator between them; base64
never holds the separator.

Both operations act on a profile that is in somebody's keeping together with a cipher device, and
both touch the profile only when nothing can fail any more.
-/

set_option autoImplicit false

namespace SessionHandoff

/-- The character between the two parts of a key text. -/
def keySeparator : Char := '|'

/-- A profile in keeping, with the state of a cipher device. -/
structure Custody (σ : Type) where
  profile : LaunchProfile
  device : σ

/-- An operation on a profile in keeping, which changes it also when it fails. -/
abbrev CustodyM (σ : Type) := ExceptT LaunchError (StateM (Custody σ))

namespace Custody

variable {σ : Type}

/-- The profile. -/
def getProfile : CustodyM σ LaunchProfile := do
  return (← get).profile

/-- Replace the profile. -/
def setProfile (p : LaunchProfile) : CustodyM σ Unit :=
  modify fun c => { c with profile := p }

/-- Use the device. -/
def use {α : Type} (call : DeviceCall σ α) : CustodyM σ α := do
  let c ← get
  let r := call c.device
  set { c with device := r.2 }
  match r.1 with
  | .ok a => pure a
  | .error e => throw (.crypto e)

end Custody

/-- The parts of a text between separators. -/
def splitKeyText (text : List Char) : List (List Char) :=
  text.splitOn keySeparator

/-- The two parts of a key text, if there are two. -/
def keyParts? (keyText : String) : Option (String × String) :=
  match splitKeyText keyText.toList with
  | [key, iv] => some (String.ofList key, String.ofList iv)
  | _ => none

/-- The key text of a key and an initial vector. -/
def keyText (key : Bytes) (iv : String) : String :=
  String.ofList ((Base64.encode key).toList ++ keySeparator :: iv.toList)

/-- Exchange the password of the profile for a key text. Returns the ciphertext. -/
def encryptPassword {σ : Type} (device : CipherDevice σ) : CustodyM σ String := do
  let p ← Custody.getProfile
  let key ← Custody.use device.generateKey
  let encrypted ← Custody.use (device.encrypt (Utf8.ofString p.password) key)
  Custody.setProfile { p with password := "", encryptionKey := keyText key encrypted.iv }
  return encrypted.ciphertext

/-- Exchange the key text of the profile for the password that a ciphertext holds. -/
def decryptPassword {σ : Type} (device : CipherDevice σ) (ciphertext : String) :
    CustodyM σ Unit := do
  let p ← Custody.getProfile
  match keyParts? p.encryptionKey with
  | none => throw .invalidKeyFormat
  | some (keyPart, iv) =>
    match Base64.decode keyPart with
    | .error e => throw (.crypto (.base64 e))
    | .ok key =>
      let plain ← Custody.use (device.decrypt ciphertext key iv)
      match Utf8.toString? plain with
      | none => throw (.crypto .notText)
      | some password =>
        Custody.setProfile { p with password := password, encryptionKey := "" }

/-- Run an operation on a profile in keeping. -/
def CustodyM.on {σ α : Type} (act : CustodyM σ α) (c : Custody σ) :
    Except LaunchError α × Custody σ :=
  act.run.run c

end SessionHandoff
