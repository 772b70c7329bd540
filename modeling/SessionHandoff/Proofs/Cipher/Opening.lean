import SessionHandoff.Password.Device
import SessionHandoff.Proofs.Cipher.Base64
import SessionHandoff.Proofs.Cipher.Gcm

/-!
# What the cipher device opens

The device in use opens exactly what it seals (`aesGcm_decrypt_eq_ok_iff`): the key has to have its
length, the initial vector has to be the text of a nonce, and the ciphertext has to be the text of
what sealing under that key and that nonce makes. So a ciphertext has one text, blank ends aside,
and another tag under the same body is refused.
-/

set_option autoImplicit false

namespace SessionHandoff

/-! ## Drawing random bytes -/

theorem Entropy.draw_append {n : Nat} {drawn : Bytes} (h : drawn.length = n) (rest : Entropy) :
    Entropy.draw n (drawn ++ rest) = (.ok drawn, rest) := by
  subst h
  have hle : drawn.length ≤ (drawn ++ rest).length := by
    rw [List.length_append]
    omega
  rw [Entropy.draw, if_pos hle, List.take_left, List.drop_left]

/-- Bytes that were drawn are the first of the supply. -/
theorem Entropy.draw_eq_ok {n : Nat} {supply rest : Entropy} {drawn : Bytes}
    (h : Entropy.draw n supply = (.ok drawn, rest)) :
    drawn.length = n ∧ supply = drawn ++ rest := by
  unfold Entropy.draw at h
  split at h
  · rename_i enough
    cases h
    exact ⟨List.length_take_of_le enough, (List.take_append_drop n supply).symm⟩
  · cases h

namespace AesGcmText

/-! ## Texts that open -/

theorem checkKey_eq_ok {key : Bytes} (h : key.length = Aes.keyLength) : checkKey key = .ok () := by
  rw [checkKey, if_pos h]

theorem length_of_checkKey {key : Bytes} {u : Unit} (h : checkKey key = .ok u) :
    key.length = Aes.keyLength := by
  by_cases hkey : key.length = Aes.keyLength
  · exact hkey
  · rw [checkKey, if_neg hkey] at h
    cases h

theorem encrypt_append {plain key nonce : Bytes} (hkey : key.length = Aes.keyLength)
    (hnonce : nonce.length = Gcm.nonceLength) (rest : Entropy) :
    encrypt plain key (nonce ++ rest) = (.ok (encryptWith key nonce plain), rest) := by
  simp only [encrypt, checkKey_eq_ok hkey, Entropy.draw_append hnonce]

/-- Encryption that succeeds had a key of the right length, and drew a nonce. -/
theorem encrypt_eq_ok {plain key : Bytes} {supply rest : Entropy} {text : EncryptedText}
    (h : encrypt plain key supply = (.ok text, rest)) :
    key.length = Aes.keyLength ∧ ∃ nonce, nonce.length = Gcm.nonceLength ∧
      supply = nonce ++ rest ∧ text = encryptWith key nonce plain := by
  unfold encrypt at h
  cases checked : checkKey key with
  | error e =>
    rw [checked] at h
    cases h
  | ok u =>
    rw [checked] at h
    rcases drawn : Entropy.draw Gcm.nonceLength supply with ⟨e | nonce, left⟩
    · rw [drawn] at h
      cases h
    · rw [drawn] at h
      cases h
      obtain ⟨length, supply⟩ := Entropy.draw_eq_ok drawn
      exact ⟨length_of_checkKey checked, nonce, length, supply, rfl⟩

/-- Opening is a matter of the deciphered bytes once key and nonce have their lengths. -/
theorem decrypt_of_texts {ciphertext iv : String} {key nonce sealedBytes : Bytes}
    (hkey : key.length = Aes.keyLength) (hnonce : nonce.length = Gcm.nonceLength)
    (hiv : Text.trimString iv = Base64.encode nonce)
    (htext : Text.trimString ciphertext = Base64.encode sealedBytes) :
    decrypt ciphertext key iv =
      match Aes.decipher key nonce sealedBytes with
      | some plain => .ok plain
      | none => .error .cipher := by
  have hne : ¬ nonce.length ≠ Gcm.nonceLength := fun h => h hnonce
  rw [decrypt, checkKey_eq_ok hkey, Base64.decode_eq_ok_iff_trim.2 hiv,
    Base64.decode_eq_ok_iff_trim.2 htext]
  simp only [bind, Except.bind, mapError_ok, if_neg hne]
  cases Aes.decipher key nonce sealedBytes with
  | none => rfl
  | some plain => rfl

/-- What was encrypted opens under its key and its initial vector. -/
theorem decrypt_encryptWith {key nonce : Bytes} (hkey : key.length = Aes.keyLength)
    (hnonce : nonce.length = Gcm.nonceLength) (plain : Bytes) :
    decrypt (encryptWith key nonce plain).ciphertext key (encryptWith key nonce plain).iv =
      .ok plain := by
  rw [encryptWith, decrypt_of_texts hkey hnonce (Base64.trimString_encode _)
    (Base64.trimString_encode _), Aes.decipher, Aes.encipher, Gcm.decipher_encipher]

/-- Whatever opens consists of a key, the text of a nonce and the text of sealed bytes. -/
theorem texts_of_decrypt {ciphertext iv : String} {key plain : Bytes}
    (h : decrypt ciphertext key iv = .ok plain) :
    key.length = Aes.keyLength ∧ ∃ nonce, nonce.length = Gcm.nonceLength ∧
      Text.trimString iv = Base64.encode nonce ∧
      Text.trimString ciphertext = Base64.encode (Aes.encipher key nonce plain) := by
  -- Key, initial vector and ciphertext are judged one after the other, and none was refused.
  obtain ⟨u, hcheck, hchecked⟩ := bind_eq_ok.1 h
  obtain ⟨nonce, hiv, hnonce⟩ := bind_eq_ok.1 hchecked
  simp only at hnonce
  split at hnonce
  · cases hnonce
  · next hlength =>
    obtain ⟨sealedBytes, htext, hsealed⟩ := bind_eq_ok.1 hnonce
    cases hplain : Aes.decipher key nonce sealedBytes with
    | none =>
      simp only [hplain] at hsealed
      cases hsealed
    | some opened =>
      simp only [hplain] at hsealed
      cases hsealed
      obtain rfl : sealedBytes = Aes.encipher key nonce plain := Gcm.decipher_eq_some_iff.1 hplain
      exact ⟨length_of_checkKey hcheck, nonce, Decidable.of_not_not hlength,
        Base64.decode_eq_ok_iff_trim.1 (mapError_eq_ok.1 hiv),
        Base64.decode_eq_ok_iff_trim.1 (mapError_eq_ok.1 htext)⟩

end AesGcmText

/-! ## The device -/

/-- Sealing `plain` under a key, with the nonce drawn from the random bytes, makes the text of the
nonce and the text of a body with its tag after it. -/
structure SealsTo (key nonce plain body tag : Bytes) : Prop where
  length_nonce : nonce.length = Gcm.nonceLength
  length_body : body.length = plain.length
  length_tag : tag.length = Gcm.tagLength
  encrypt_eq : ∀ rest : Entropy, CipherDevice.aesGcm.encrypt plain key (nonce ++ rest) =
    (.ok ⟨Base64.encode nonce, Base64.encode (body ++ tag)⟩, rest)

theorem sealsTo_encipher {key nonce : Bytes} (hkey : key.length = Aes.keyLength)
    (hnonce : nonce.length = Gcm.nonceLength) (plain : Bytes) :
    ∃ body tag, SealsTo key nonce plain body tag ∧ body ++ tag = Aes.encipher key nonce plain :=
  ⟨_, _, ⟨hnonce, Gcm.length_crypt _ _ _, Gcm.length_tag _ _ _,
    AesGcmText.encrypt_append hkey hnonce⟩, rfl⟩

theorem SealsTo.length_key {key nonce plain body tag : Bytes}
    (h : SealsTo key nonce plain body tag) : key.length = Aes.keyLength := by
  by_cases hkey : key.length = Aes.keyLength
  · exact hkey
  · have henc : AesGcmText.encrypt plain key (nonce ++ []) = _ := h.encrypt_eq []
    rw [AesGcmText.encrypt, AesGcmText.checkKey, if_neg hkey] at henc
    cases henc

theorem SealsTo.append_eq {key nonce plain body tag : Bytes}
    (h : SealsTo key nonce plain body tag) : body ++ tag = Aes.encipher key nonce plain := by
  have henc : AesGcmText.encrypt plain key (nonce ++ []) = _ := h.encrypt_eq []
  rw [AesGcmText.encrypt_append h.length_key h.length_nonce] at henc
  injection henc with hresult
  injection hresult with htexts
  injection htexts with _ htext
  exact (Base64.encode_inj.1 htext).symm

/-- The body of sealed bytes under another tag does not open. -/
theorem SealsTo.decipher_other_tag {key nonce plain body tag other : Bytes}
    (h : SealsTo key nonce plain body tag) (hlen : other.length = Gcm.tagLength)
    (hne : other ≠ tag) : Aes.decipher key nonce (body ++ other) = none := by
  -- Both tags have their length, so the sealed bytes come apart in one way only.
  obtain ⟨hbody, htag⟩ := List.append_inj' h.append_eq
    (by rw [h.length_tag]; exact (Gcm.length_tag _ _ _).symm)
  have hother : other ≠ Gcm.tag (Aes.encrypt key) nonce body := by
    rw [hbody]
    exact fun heq => hne (heq.trans htag.symm)
  rw [Aes.decipher, Gcm.decipher_append hlen, if_neg hother]

/-- The device opens exactly what it seals. A ciphertext opens to `plain` under a key and an initial
vector if and only if the key has its length and, blank ends aside, the initial vector is the text
of a nonce and the ciphertext is the text of the body and the tag that sealing `plain` under this
key and nonce makes. Any other text that opens to the same bytes differs in blank ends only, and
the body under any other tag is refused. -/
theorem aesGcm_decrypt_eq_ok_iff (ciphertext iv : String) (key plain : Bytes) (supply : Entropy) :
    ((CipherDevice.aesGcm.decrypt ciphertext key iv supply).1 = .ok plain ↔
      key.length = Aes.keyLength ∧ ∃ nonce body tag, SealsTo key nonce plain body tag ∧
        Text.trimString iv = Base64.encode nonce ∧
        Text.trimString ciphertext = Base64.encode (body ++ tag)) ∧
    (∀ other : String, (CipherDevice.aesGcm.decrypt ciphertext key iv supply).1 = .ok plain →
      (CipherDevice.aesGcm.decrypt other key iv supply).1 = .ok plain →
      Text.trimString other = Text.trimString ciphertext) ∧
    (∀ nonce body tag other : Bytes, SealsTo key nonce plain body tag →
      other.length = Gcm.tagLength → other ≠ tag → Text.trimString iv = Base64.encode nonce →
      Text.trimString ciphertext = Base64.encode (body ++ other) →
      (CipherDevice.aesGcm.decrypt ciphertext key iv supply).1 = .error .cipher) := by
  refine ⟨⟨fun h => ?_, ?_⟩, fun other h hother => ?_, ?_⟩
  · obtain ⟨hkey, nonce, hnonce, hiv, htext⟩ := AesGcmText.texts_of_decrypt h
    obtain ⟨body, tag, hseals, happend⟩ := sealsTo_encipher hkey hnonce plain
    exact ⟨hkey, nonce, body, tag, hseals, hiv, by rw [happend, htext]⟩
  · rintro ⟨hkey, nonce, body, tag, hseals, hiv, htext⟩
    have hopen := AesGcmText.decrypt_of_texts hkey hseals.length_nonce hiv htext
    rw [hseals.append_eq, Aes.decipher, Aes.encipher, Gcm.decipher_encipher] at hopen
    exact hopen
  · obtain ⟨-, nonce, -, hiv, htext⟩ := AesGcmText.texts_of_decrypt h
    obtain ⟨-, nonce', -, hiv', htext'⟩ := AesGcmText.texts_of_decrypt hother
    -- Both texts are sealed under the nonce that the initial vector spells.
    obtain rfl : nonce = nonce' := Base64.encode_inj.1 (hiv.symm.trans hiv')
    rw [htext, htext']
  · intro nonce body tag other hseals hlen hne hiv htext
    have hopen := AesGcmText.decrypt_of_texts hseals.length_key hseals.length_nonce hiv htext
    rw [hseals.decipher_other_tag hlen hne] at hopen
    exact hopen

end SessionHandoff
