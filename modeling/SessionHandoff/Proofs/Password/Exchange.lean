import SessionHandoff.Password.Exchange
import SessionHandoff.Proofs.Cipher.Opening

/-!
# The exchange of a password

One equation says what each step of an operation in custody does, for every device. From these
follows all that an exchange can come to, whatever the device answers (`encryptPassword_cases`,
`decryptPassword_cases`): the profile changes in one case of each only. With the device in use,
encryption succeeds if and only if the random bytes last (`encryptPassword_eq_ok_iff`), and leaves a
key text that splits into its two parts again, since base64 never holds the separator
(`keyParts?_keyText`). Decryption under that key text recovers the password
(`decryptPassword_keyText`).
-/

set_option autoImplicit false

namespace SessionHandoff

/-! ## Steps in custody -/

section Steps

variable {σ α β : Type}

/-- An operation goes on where the first part of it left the custody, unless that part failed. -/
theorem on_bind (act : CustodyM σ β) (f : β → CustodyM σ α) (c : Custody σ) :
    (act >>= f).on c =
      match act.on c with
      | (.ok a, c') => (f a).on c'
      | (.error e, c') => (.error e, c') := by
  simp only [CustodyM.on, ExceptT.run_bind, StateT.run_bind]
  rcases act.run.run c with ⟨a | e, c'⟩
  · rfl
  · rfl

theorem on_get_bind (f : Custody σ → CustodyM σ α) (c : Custody σ) :
    ((get : CustodyM σ (Custody σ)) >>= f).on c = (f c).on c := rfl

theorem on_set_bind (c' : Custody σ) (f : PUnit → CustodyM σ α) (c : Custody σ) :
    ((set c' : CustodyM σ PUnit) >>= f).on c = (f ⟨⟩).on c' := rfl

theorem on_getProfile_bind (f : LaunchProfile → CustodyM σ α) (c : Custody σ) :
    (Custody.getProfile >>= f).on c = (f c.profile).on c := rfl

theorem on_setProfile (p : LaunchProfile) (c : Custody σ) :
    (Custody.setProfile p).on c = (.ok (), ⟨p, c.device⟩) := rfl

/-- The device changes its state whatever it answers, and the profile stays. -/
theorem on_use (call : DeviceCall σ β) (c : Custody σ) :
    (Custody.use call).on c =
      ((call c.device).1.mapError LaunchError.crypto, ⟨c.profile, (call c.device).2⟩) := by
  rw [Custody.use, on_get_bind, on_set_bind]
  cases (call c.device).1 with
  | ok a => rfl
  | error e => rfl

theorem on_use_bind {call : DeviceCall σ β} {f : β → CustodyM σ α} {c : Custody σ} {a : β} {s : σ}
    (h : call c.device = (.ok a, s)) :
    (Custody.use call >>= f).on c = (f a).on ⟨c.profile, s⟩ := by
  rw [on_bind, on_use, h]
  rfl

end Steps

/-! ## What an exchange can come to -/

section Outcomes

variable {σ : Type}

/-- How exchanging a password for a key text can go: no key, a key but no ciphertext, or both. -/
inductive Encryption (device : CipherDevice σ) (c : Custody σ) :
    Except LaunchError String × Custody σ → Prop where
  | noKey {e : CryptoError} {s : σ} (generated : device.generateKey c.device = (.error e, s)) :
      Encryption device c (.error (.crypto e), ⟨c.profile, s⟩)
  | notEncrypted {key : Bytes} {e : CryptoError} {s s' : σ}
      (generated : device.generateKey c.device = (.ok key, s))
      (refused : device.encrypt (Utf8.ofString c.profile.password) key s = (.error e, s')) :
      Encryption device c (.error (.crypto e), ⟨c.profile, s'⟩)
  | exchanged {key : Bytes} {text : EncryptedText} {s s' : σ}
      (generated : device.generateKey c.device = (.ok key, s))
      (encrypted : device.encrypt (Utf8.ofString c.profile.password) key s = (.ok text, s')) :
      Encryption device c (.ok text.ciphertext,
        ⟨{ c.profile with password := "", encryptionKey := keyText key text.iv }, s'⟩)

theorem encryptPassword_cases (device : CipherDevice σ) (c : Custody σ) :
    Encryption device c ((encryptPassword device).on c) := by
  rw [encryptPassword, on_getProfile_bind]
  rcases generated : device.generateKey c.device with ⟨e | key, s⟩
  · rw [on_bind, on_use, generated]
    exact .noKey generated
  · rw [on_use_bind generated]
    rcases encrypted : device.encrypt (Utf8.ofString c.profile.password) key s with ⟨e | text, s'⟩
    · rw [on_bind, on_use, encrypted]
      exact .notEncrypted generated encrypted
    · rw [on_use_bind encrypted, on_bind, on_setProfile]
      exact .exchanged generated encrypted

/-- How exchanging a key text for a password can go. The device is called only with the two parts of
a key text, the first of them decoded. -/
inductive Decryption (device : CipherDevice σ) (ciphertext : String) (c : Custody σ) :
    Except LaunchError Unit × Custody σ → Prop where
  | noParts (split : keyParts? c.profile.encryptionKey = none) :
      Decryption device ciphertext c (.error .invalidKeyFormat, c)
  | notBase64 {keyPart iv : String} {e : Base64.DecodeError}
      (split : keyParts? c.profile.encryptionKey = some (keyPart, iv))
      (decoded : Base64.decode keyPart = .error e) :
      Decryption device ciphertext c (.error (.crypto (.base64 e)), c)
  | notDecrypted {keyPart iv : String} {key : Bytes} {e : CryptoError} {s : σ}
      (split : keyParts? c.profile.encryptionKey = some (keyPart, iv))
      (decoded : Base64.decode keyPart = .ok key)
      (refused : device.decrypt ciphertext key iv c.device = (.error e, s)) :
      Decryption device ciphertext c (.error (.crypto e), ⟨c.profile, s⟩)
  | notText {keyPart iv : String} {key plain : Bytes} {s : σ}
      (split : keyParts? c.profile.encryptionKey = some (keyPart, iv))
      (decoded : Base64.decode keyPart = .ok key)
      (decrypted : device.decrypt ciphertext key iv c.device = (.ok plain, s))
      (text : Utf8.toString? plain = none) :
      Decryption device ciphertext c (.error (.crypto .notText), ⟨c.profile, s⟩)
  | exchanged {keyPart iv : String} {key plain : Bytes} {password : String} {s : σ}
      (split : keyParts? c.profile.encryptionKey = some (keyPart, iv))
      (decoded : Base64.decode keyPart = .ok key)
      (decrypted : device.decrypt ciphertext key iv c.device = (.ok plain, s))
      (text : Utf8.toString? plain = some password) :
      Decryption device ciphertext c
        (.ok (), ⟨{ c.profile with password := password, encryptionKey := "" }, s⟩)

theorem decryptPassword_cases (device : CipherDevice σ) (ciphertext : String) (c : Custody σ) :
    Decryption device ciphertext c ((decryptPassword device ciphertext).on c) := by
  rw [decryptPassword, on_getProfile_bind]
  cases split : keyParts? c.profile.encryptionKey with
  | none => exact .noParts split
  | some parts =>
    obtain ⟨keyPart, iv⟩ := parts
    dsimp only
    cases decoded : Base64.decode keyPart with
    | error e => exact .notBase64 split decoded
    | ok key =>
      rcases decrypted : device.decrypt ciphertext key iv c.device with ⟨e | plain, s⟩
      · dsimp only
        rw [on_bind, on_use, decrypted]
        exact .notDecrypted split decoded decrypted
      · dsimp only
        rw [on_use_bind decrypted]
        cases text : Utf8.toString? plain with
        | none => exact .notText split decoded decrypted text
        | some password => exact .exchanged split decoded decrypted text

end Outcomes

/-! ## Key texts -/

/-- Base64 never holds the separator. -/
theorem keySeparator_not_mem_encode (bytes : Bytes) :
    keySeparator ∉ (Base64.encode bytes).toList := by
  rw [Base64.encode, String.toList_ofList]
  exact Base64.bar_not_mem_encodeChars bytes

/-- A key text splits into the text of its key and the text of its initial vector. -/
theorem keyParts?_keyText (key : Bytes) {iv : String} (free : keySeparator ∉ iv.toList) :
    keyParts? (keyText key iv) = some (Base64.encode key, iv) := by
  have hsplit : splitKeyText (keyText key iv).toList =
      [(Base64.encode key).toList, iv.toList] := by
    rw [splitKeyText, keyText, String.toList_ofList,
      List.splitOn_append_cons_self_of_not_mem (keySeparator_not_mem_encode key),
      List.splitOn_eq_singleton free]
  rw [keyParts?, hsplit]
  simp only [String.ofList_toList]

theorem splitKeyText_eq_pair_iff {text key iv : List Char} :
    splitKeyText text = [key, iv] ↔
      text = key ++ keySeparator :: iv ∧ keySeparator ∉ key ∧ keySeparator ∉ iv := by
  unfold splitKeyText
  constructor
  · intro pair
    -- the first separator divides the text, and a second one would give a third part
    by_cases first : keySeparator ∈ text
    · obtain ⟨front, back, rfl, free⟩ := List.eq_append_cons_of_mem first
      rw [List.splitOn_append_cons_self_of_not_mem free] at pair
      obtain ⟨rfl, others⟩ := List.cons.inj pair
      by_cases second : keySeparator ∈ back
      · obtain ⟨middle, rest, rfl, free'⟩ := List.eq_append_cons_of_mem second
        rw [List.splitOn_append_cons_self_of_not_mem free'] at others
        exact absurd (List.cons.inj others).2 (List.splitOn_ne_nil _ _)
      · rw [List.splitOn_eq_singleton second] at others
        cases others
        exact ⟨rfl, free, second⟩
    · rw [List.splitOn_eq_singleton first] at pair
      cases pair
  · rintro ⟨rfl, freeKey, freeIv⟩
    rw [List.splitOn_append_cons_self_of_not_mem freeKey, List.splitOn_eq_singleton freeIv]

/-- A text has two parts exactly if it holds one separator, and they stand on either side of it. -/
theorem keyParts?_eq_some_iff {text keyPart iv : String} :
    keyParts? text = some (keyPart, iv) ↔
      text.toList = keyPart.toList ++ keySeparator :: iv.toList ∧
        text.toList.count keySeparator = 1 := by
  have parts : keyParts? text = some (keyPart, iv) ↔
      splitKeyText text.toList = [keyPart.toList, iv.toList] := by
    unfold keyParts?
    split
    · next key value pair =>
      rw [pair, Option.some_inj, Prod.mk.injEq]
      simp only [List.cons.injEq, and_true, ← String.toList_inj, String.toList_ofList]
    · next other =>
      simp only [reduceCtorEq, false_iff]
      exact other _ _
  rw [parts, splitKeyText_eq_pair_iff]
  refine and_congr_right fun whole => ?_
  rw [whole, List.count_append, List.count_cons_self]
  constructor
  · rintro ⟨freeKey, freeIv⟩
    rw [List.count_eq_zero_of_not_mem freeKey, List.count_eq_zero_of_not_mem freeIv]
  · intro one
    exact ⟨List.count_eq_zero.1 (by omega), List.count_eq_zero.1 (by omega)⟩

/-- A text has no two parts exactly if it does not hold one separator. -/
theorem keyParts?_eq_none_iff {keyText : String} :
    keyParts? keyText = none ↔ keyText.toList.count keySeparator ≠ 1 := by
  constructor
  · intro none single
    -- around the one separator there are two parts
    have inside : keySeparator ∈ keyText.toList := List.count_pos_iff.1 (by omega)
    obtain ⟨front, back, whole⟩ := List.append_of_mem inside
    have parts : keyParts? keyText = some (String.ofList front, String.ofList back) := by
      rw [keyParts?_eq_some_iff, String.toList_ofList, String.toList_ofList]
      exact ⟨whole, single⟩
    cases none.symm.trans parts
  · intro wrong
    cases split : keyParts? keyText with
    | none => rfl
    | some parts => exact absurd (keyParts?_eq_some_iff.1 split).2 wrong

/-- Where the device decrypts a ciphertext under the key and the initial vector of a key text, what
it decrypts is recovered as the password. -/
theorem decryptPassword_of_decrypted {σ : Type} {device : CipherDevice σ} {p : LaunchProfile}
    {key : Bytes} {iv ciphertext password : String} {s s' : σ} (free : keySeparator ∉ iv.toList)
    (hp : p.encryptionKey = keyText key iv)
    (decrypted : device.decrypt ciphertext key iv s = (.ok (Utf8.ofString password), s')) :
    (decryptPassword device ciphertext).on ⟨p, s⟩ =
      (.ok (), ⟨{ p with password := password, encryptionKey := "" }, s'⟩) := by
  rw [decryptPassword, on_getProfile_bind]
  simp only [hp, keyParts?_keyText key free, Base64.decode_encode_self]
  rw [on_use_bind decrypted]
  simp only [Utf8.toString?_ofString]
  rw [on_setProfile]

/-! ## The device in use -/

/-- With enough random bytes encryption succeeds and keeps everything but the two secrets. -/
theorem encryptPassword_of_random (p : LaunchProfile) {key nonce : Bytes}
    (hkey : key.length = Aes.keyLength) (hnonce : nonce.length = Gcm.nonceLength)
    (rest : Entropy) :
    (encryptPassword CipherDevice.aesGcm).on ⟨p, key ++ (nonce ++ rest)⟩ =
      (.ok (Base64.encode (Aes.encipher key nonce (Utf8.ofString p.password))),
        ⟨{ p with password := "", encryptionKey := keyText key (Base64.encode nonce) }, rest⟩) := by
  -- The key is drawn first and the nonce after it.
  have hgenerate : CipherDevice.aesGcm.generateKey (key ++ (nonce ++ rest)) =
      (.ok key, nonce ++ rest) := Entropy.draw_append hkey _
  have hencrypt : CipherDevice.aesGcm.encrypt (Utf8.ofString p.password) key (nonce ++ rest) =
      (.ok (AesGcmText.encryptWith key nonce (Utf8.ofString p.password)), rest) :=
    AesGcmText.encrypt_append hkey hnonce rest
  rw [encryptPassword, on_getProfile_bind, on_use_bind hgenerate, on_use_bind hencrypt, on_bind,
    on_setProfile]
  rfl

/-- Encryption that succeeds drew a key and a nonce, and did with them what it does with enough
random bytes. -/
theorem encryptPassword_eq_ok_iff {p outgoing : LaunchProfile} {ciphertext : String}
    {supply rest : Entropy} :
    (encryptPassword CipherDevice.aesGcm).on ⟨p, supply⟩ = (.ok ciphertext, ⟨outgoing, rest⟩) ↔
      ∃ key nonce, key.length = Aes.keyLength ∧ nonce.length = Gcm.nonceLength ∧
        supply = key ++ (nonce ++ rest) ∧
        ciphertext = Base64.encode (Aes.encipher key nonce (Utf8.ofString p.password)) ∧
        outgoing =
          { p with password := "", encryptionKey := keyText key (Base64.encode nonce) } := by
  constructor
  · intro succeeded
    have gone := encryptPassword_cases CipherDevice.aesGcm ⟨p, supply⟩
    rw [succeeded] at gone
    cases gone with
    | exchanged generated encrypted =>
      obtain ⟨hkey, rfl⟩ := Entropy.draw_eq_ok generated
      obtain ⟨-, nonce, hnonce, rfl, rfl⟩ := AesGcmText.encrypt_eq_ok encrypted
      exact ⟨_, nonce, hkey, hnonce, rfl, rfl, rfl⟩
  · rintro ⟨key, nonce, hkey, hnonce, rfl, rfl, rfl⟩
    exact encryptPassword_of_random p hkey hnonce rest

/-- Under the key text of a key and a nonce, what they seal is recovered as the password. -/
theorem decryptPassword_keyText {p : LaunchProfile} {key nonce : Bytes}
    (hkey : key.length = Aes.keyLength) (hnonce : nonce.length = Gcm.nonceLength)
    (hp : p.encryptionKey = keyText key (Base64.encode nonce)) (password : String)
    (supply : Entropy) :
    (decryptPassword CipherDevice.aesGcm
        (Base64.encode (Aes.encipher key nonce (Utf8.ofString password)))).on ⟨p, supply⟩ =
      (.ok (), ⟨{ p with password := password, encryptionKey := "" }, supply⟩) := by
  have hopen := AesGcmText.decrypt_encryptWith hkey hnonce (Utf8.ofString password)
  exact decryptPassword_of_decrypted (keySeparator_not_mem_encode nonce) hp
    (congrArg (·, supply) hopen)

end SessionHandoff
