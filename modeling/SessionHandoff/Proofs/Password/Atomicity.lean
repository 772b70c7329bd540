import SessionHandoff.Proofs.Password.Exchange

/-!
# Exchanges are atomic

An exchange that fails leaves the profile as it was, and one that succeeds changes the two secrets of
the profile and nothing else (`encryptPassword_atomic`, `decryptPassword_atomic`), whatever the device
answers. Watching a device changes nothing, so the calls that a watched device has on record are the
calls of the exchange (`encryptPassword_watched`, `decryptPassword_watched`).
-/

set_option autoImplicit false

namespace SessionHandoff

variable {σ : Type}

/-! ## What an exchange changes -/

/-- What failed has left the profile as it was, and what succeeded has changed no more of it than
the password and the key text. -/
def LaunchProfile.ChangedAtomically {α : Type} (before : LaunchProfile)
    (outcome : Except LaunchError α) (after : LaunchProfile) : Prop :=
  match outcome with
  | .error _ => after = before
  | .ok _ => ∃ password encryptionKey, after = { before with password, encryptionKey }

theorem encryptPassword_atomic (device : CipherDevice σ) (c : Custody σ) :
    c.profile.ChangedAtomically ((encryptPassword device).on c).1
      ((encryptPassword device).on c).2.profile := by
  have gone := encryptPassword_cases device c
  generalize (encryptPassword device).on c = r at gone ⊢
  cases gone with
  | noKey generated => rfl
  | notEncrypted generated refused => rfl
  | exchanged generated encrypted => exact ⟨_, _, rfl⟩

theorem decryptPassword_atomic (device : CipherDevice σ) (ciphertext : String) (c : Custody σ) :
    c.profile.ChangedAtomically ((decryptPassword device ciphertext).on c).1
      ((decryptPassword device ciphertext).on c).2.profile := by
  have gone := decryptPassword_cases device ciphertext c
  generalize (decryptPassword device ciphertext).on c = r at gone ⊢
  cases gone with
  | noParts split => rfl
  | notBase64 split decoded => rfl
  | notDecrypted split decoded refused => rfl
  | notText split decoded decrypted text => rfl
  | exchanged split decoded decrypted text => exact ⟨_, _, rfl⟩

/-! ## What an exchange asks of the device -/

/-- The calls that an encryption makes: one for a key, and where there is one a second that encrypts
the password under it. -/
def encryptionCalls (device : CipherDevice σ) (p : LaunchProfile) (s : σ) : List CipherCall :=
  .generateKey ::
    match (device.generateKey s).1 with
    | .ok key => [.encrypt (Utf8.ofString p.password) key]
    | .error _ => []

/-- The calls that a decryption makes: none, unless the key text has two parts and the first of them
is base64. -/
def decryptionCalls (ciphertext : String) (p : LaunchProfile) : List CipherCall :=
  match keyParts? p.encryptionKey with
  | none => []
  | some (keyPart, iv) =>
    match Base64.decode keyPart with
    | .error _ => []
    | .ok key => [.decrypt ciphertext key iv]

/-- The text holds one separator, what stands in front of it decodes to the key, and behind it
stands the initial vector. -/
def HoldsKey (text : String) (key : Bytes) (iv : String) : Prop :=
  ∃ keyPart : String, text.toList = keyPart.toList ++ keySeparator :: iv.toList ∧
    text.toList.count keySeparator = 1 ∧ Base64.decode keyPart = .ok key

theorem holdsKey_iff {text iv : String} {key : Bytes} :
    HoldsKey text key iv ↔
      ∃ keyPart, keyParts? text = some (keyPart, iv) ∧ Base64.decode keyPart = .ok key := by
  simp only [HoldsKey, keyParts?_eq_some_iff, and_assoc]

theorem decryptionCalls_of_holdsKey {ciphertext iv : String} {p : LaunchProfile} {key : Bytes}
    (holds : HoldsKey p.encryptionKey key iv) :
    decryptionCalls ciphertext p = [.decrypt ciphertext key iv] := by
  obtain ⟨keyPart, split, decoded⟩ := holdsKey_iff.1 holds
  simp only [decryptionCalls, split, decoded]

theorem decryptionCalls_of_not_holdsKey {ciphertext : String} {p : LaunchProfile}
    (none : ∀ key iv, ¬ HoldsKey p.encryptionKey key iv) : decryptionCalls ciphertext p = [] := by
  unfold decryptionCalls
  split
  · rfl
  · next keyPart iv split =>
    split
    · rfl
    · next key decoded => exact absurd (holdsKey_iff.2 ⟨keyPart, split, decoded⟩) (none key iv)

/-- The same keeping with the calls that a watched device has on record. -/
def Custody.watched (c : Custody σ) (calls : List CipherCall) : Custody (Watched σ) :=
  ⟨c.profile, c.device, calls⟩

/-- What an encryption can come to is what it comes to. -/
theorem Encryption.eq {device : CipherDevice σ} {c : Custody σ}
    {r : Except LaunchError String × Custody σ} (gone : Encryption device c r) :
    (encryptPassword device).on c = r := by
  rw [encryptPassword, on_getProfile_bind]
  cases gone with
  | noKey generated =>
    rw [on_bind, on_use, generated]
    rfl
  | notEncrypted generated refused =>
    rw [on_use_bind generated, on_bind, on_use, refused]
    rfl
  | exchanged generated encrypted =>
    rw [on_use_bind generated, on_use_bind encrypted, on_bind, on_setProfile]
    rfl

/-- What a decryption can come to is what it comes to. -/
theorem Decryption.eq {device : CipherDevice σ} {ciphertext : String} {c : Custody σ}
    {r : Except LaunchError Unit × Custody σ} (gone : Decryption device ciphertext c r) :
    (decryptPassword device ciphertext).on c = r := by
  rw [decryptPassword, on_getProfile_bind]
  cases gone with
  | noParts split =>
    rw [split]
    rfl
  | notBase64 split decoded =>
    simp only [split, decoded]
    rfl
  | notDecrypted split decoded refused =>
    simp only [split, decoded]
    rw [on_bind, on_use, refused]
    rfl
  | notText split decoded decrypted text =>
    simp only [split, decoded]
    rw [on_use_bind decrypted]
    simp only [text]
    rfl
  | exchanged split decoded decrypted text =>
    simp only [split, decoded]
    rw [on_use_bind decrypted]
    simp only [text]
    rw [on_setProfile]

theorem record_of_answer {α : Type} {act : DeviceCall σ α} {w : Watched σ}
    {answer : Except CryptoError α} {s : σ} (answered : act w.inner = (answer, s))
    (call : CipherCall) : Watched.record call act w = (answer, ⟨s, w.calls ++ [call]⟩) := by
  rw [Watched.record, answered]

/-- With a watched device an encryption goes as without watching, and its calls are on record. -/
theorem encryptPassword_watched (device : CipherDevice σ) (p : LaunchProfile) (w : Watched σ) :
    (encryptPassword device.watched).on ⟨p, w⟩ =
      (((encryptPassword device).on ⟨p, w.inner⟩).1,
        ((encryptPassword device).on ⟨p, w.inner⟩).2.watched
          (w.calls ++ encryptionCalls device p w.inner)) := by
  have gone := encryptPassword_cases device ⟨p, w.inner⟩
  generalize (encryptPassword device).on ⟨p, w.inner⟩ = r at gone ⊢
  unfold encryptionCalls
  -- each outcome is also one for the watched device, whose answers are the same
  cases gone with
  | noKey generated =>
    rw [generated]
    exact (Encryption.noKey (record_of_answer generated _)).eq
  | notEncrypted generated refused =>
    rw [generated, List.append_cons]
    exact (Encryption.notEncrypted (record_of_answer generated _) (record_of_answer refused _)).eq
  | exchanged generated encrypted =>
    rw [generated, List.append_cons]
    exact (Encryption.exchanged (record_of_answer generated _) (record_of_answer encrypted _)).eq

/-- With a watched device a decryption goes as without watching, and its calls are on record. -/
theorem decryptPassword_watched (device : CipherDevice σ) (ciphertext : String) (p : LaunchProfile)
    (w : Watched σ) :
    (decryptPassword device.watched ciphertext).on ⟨p, w⟩ =
      (((decryptPassword device ciphertext).on ⟨p, w.inner⟩).1,
        ((decryptPassword device ciphertext).on ⟨p, w.inner⟩).2.watched
          (w.calls ++ decryptionCalls ciphertext p)) := by
  have gone := decryptPassword_cases device ciphertext ⟨p, w.inner⟩
  have watched {r} (same : Decryption device.watched ciphertext ⟨p, w⟩ r) :
      (decryptPassword device.watched ciphertext).on ⟨p, w⟩ = r := same.eq
  generalize (decryptPassword device ciphertext).on ⟨p, w.inner⟩ = r at gone ⊢
  unfold decryptionCalls
  cases gone with
  | noParts split =>
    simp only [split, List.append_nil]
    exact watched (.noParts split)
  | notBase64 split decoded =>
    simp only [split, decoded, List.append_nil]
    exact watched (.notBase64 split decoded)
  | notDecrypted split decoded refused =>
    simp only [split, decoded]
    exact watched (.notDecrypted split decoded (record_of_answer refused _))
  | notText split decoded decrypted text =>
    simp only [split, decoded]
    exact watched (.notText split decoded (record_of_answer decrypted _) text)
  | exchanged split decoded decrypted text =>
    simp only [split, decoded]
    exact watched (.exchanged split decoded (record_of_answer decrypted _) text)

/-- **Exchanges are atomic for every device.** Whatever a device answers and in whatever state it is,
for every profile and every ciphertext:

* An encryption that fails leaves the profile as it was, and one that succeeds changes nothing but
  the password and the key text. It asks the device for a key, once, and if it has one it lets the
  device encrypt the bytes of the password under this key, once.
* A decryption that fails leaves the profile as it was, and one that succeeds changes nothing but
  the password and the key text. If the key text holds one separator with base64 in front of it, the
  device decrypts the ciphertext, once, under the decoded key and with what stands behind the
  separator; otherwise the device is not called.

The calls are those that a watched device has on record, and watching changes nothing else. -/
theorem password_exchange_atomic (device : CipherDevice σ) (p : LaunchProfile) (w : Watched σ)
    (ciphertext : String) :
    let e := (encryptPassword device).on ⟨p, w.inner⟩
    let d := (decryptPassword device ciphertext).on ⟨p, w.inner⟩
    (p.ChangedAtomically e.1 e.2.profile ∧
      (encryptPassword device.watched).on ⟨p, w⟩ =
        (e.1, e.2.watched (w.calls ++ encryptionCalls device p w.inner))) ∧
    p.ChangedAtomically d.1 d.2.profile ∧
      (∀ key iv, HoldsKey p.encryptionKey key iv →
        (decryptPassword device.watched ciphertext).on ⟨p, w⟩ =
          (d.1, d.2.watched (w.calls ++ [.decrypt ciphertext key iv]))) ∧
      ((∀ key iv, ¬ HoldsKey p.encryptionKey key iv) →
        (decryptPassword device.watched ciphertext).on ⟨p, w⟩ = (d.1, d.2.watched w.calls)) := by
  intro e d
  have encrypted : p.ChangedAtomically e.1 e.2.profile :=
    encryptPassword_atomic device ⟨p, w.inner⟩
  have decrypted : p.ChangedAtomically d.1 d.2.profile :=
    decryptPassword_atomic device ciphertext ⟨p, w.inner⟩
  refine ⟨⟨encrypted, ?_⟩, decrypted, ?_, ?_⟩
  · rw [encryptPassword_watched]
  · intro key iv holds
    rw [decryptPassword_watched, decryptionCalls_of_holdsKey holds]
  · intro none
    rw [decryptPassword_watched, decryptionCalls_of_not_holdsKey none, List.append_nil]

/-- A device that opens any ciphertext to bytes which are no text, asked with a key text of two parts
and with one of three. -/
theorem password_exchange_atomic_no_text :
    let device : CipherDevice Unit :=
      { generateKey := fun s => (.error .randomSource, s)
        encrypt := fun _ _ s => (.error .cipher, s)
        decrypt := fun _ _ _ s => (.ok [0xff], s) }
    let two : LaunchProfile :=
      { password := "pw", encryptionKey := "Bw==| iv", config := { environment := .ofList [] } }
    let three : LaunchProfile := { two with encryptionKey := "Bw==|iv|" }
    (decryptPassword device.watched "sealed").on ⟨two, ⟨(), []⟩⟩ =
        (.error (.crypto .notText), ⟨two, ⟨(), [.decrypt "sealed" [7] " iv"]⟩⟩) ∧
      (decryptPassword device.watched "sealed").on ⟨three, ⟨(), []⟩⟩ =
        (.error .invalidKeyFormat, ⟨three, ⟨(), []⟩⟩) := by
  intro device two three
  obtain ⟨-, -, holding, -⟩ := password_exchange_atomic device two ⟨(), []⟩ "sealed"
  obtain ⟨-, -, -, holdingNone⟩ := password_exchange_atomic device three ⟨(), []⟩ "sealed"
  have key : HoldsKey two.encryptionKey [7] " iv" :=
    ⟨"Bw==", by decide, by decide, eq_ok_of_toOption (by decide +kernel)⟩
  -- this key text has two separators
  have noKey : ∀ key iv, ¬ HoldsKey three.encryptionKey key iv := by
    rintro key iv ⟨keyPart, -, one, -⟩
    exact absurd one (by decide)
  obtain ⟨keyPart, split, decoded⟩ := holdsKey_iff.1 key
  have opened : Decryption device "sealed" ⟨two, ()⟩ (.error (.crypto .notText), ⟨two, ()⟩) :=
    .notText split decoded rfl (by decide +kernel)
  have refused : Decryption device "sealed" ⟨three, ()⟩ (.error .invalidKeyFormat, ⟨three, ()⟩) :=
    .noParts (by decide +kernel)
  constructor
  · rw [holding [7] " iv" key, opened.eq]
    rfl
  · rw [holdingNone noKey, refused.eq]
    rfl

end SessionHandoff
