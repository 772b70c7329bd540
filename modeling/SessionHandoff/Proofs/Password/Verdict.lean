import SessionHandoff.Proofs.Password.Refusal

/-!
# How a decryption is judged

A decryption looks at one thing after the other: the parts of the key text, the base64 of the key,
its length, the base64 of the initial vector, its length, the base64 of the ciphertext, the tag and
the text of the password. `Judged` says of a key text and a ciphertext which of these is the first
that is wrong, or which password comes out where none is; it speaks of what is written and sealed
and not of how texts are read. `judge` computes the same (`judged_iff`).

The verdict decides the result (`Verdict.decides_decryptPassword`), so the errors of a decryption
tell the verdicts apart as far as `decryption_classified` says: two of the errors arise at several
stages.
-/

set_option autoImplicit false

namespace SessionHandoff

/-! ## What has to be right -/

/-- Blanks at its ends aside, the text is what is written of the bytes. -/
def Base64.Spells (text : String) (bytes : Bytes) : Prop :=
  Text.trimString text = Base64.encode bytes

/-- The bytes are long enough for a tag, and the tag at their end belongs to what stands before
it. -/
structure Gcm.IsAuthentic (cipher : Block → Block) (nonce sealedBytes : Bytes) : Prop where
  long : tagLength ≤ sealedBytes.length
  verifies : sealedBytes.drop (sealedBytes.length - tagLength) =
    tag cipher nonce (sealedBytes.take (sealedBytes.length - tagLength))

/-- The key text holds one separator, and the two parts stand on either side of it. -/
structure HasParts (keyText keyPart iv : String) : Prop where
  whole : keyText.toList = keyPart.toList ++ keySeparator :: iv.toList
  single : keyText.toList.count keySeparator = 1

/-- The first part of the key text spells a key of the right length. -/
structure HasKey (keyText iv : String) (key : Bytes) : Prop where
  spelled : ∃ keyPart, HasParts keyText keyPart iv ∧ Base64.Spells keyPart key
  length : key.length = Aes.keyLength

/-- The second part of the key text spells a nonce of the right length. -/
structure HasNonce (keyText : String) (key nonce : Bytes) : Prop where
  spelled : ∃ iv, HasKey keyText iv key ∧ Base64.Spells iv nonce
  length : nonce.length = Gcm.nonceLength

/-- The key text spells key and nonce, and the ciphertext spells the sealed bytes. -/
structure HasSealed (keyText ciphertext : String) (key nonce sealedBytes : Bytes) : Prop where
  nonce : HasNonce keyText key nonce
  spelled : Base64.Spells ciphertext sealedBytes

/-! ## Verdicts -/

/-- The first thing that is wrong with a decryption, or the password that comes out. -/
inductive Verdict where
  | parts
  | key
  | keyLength (actual : Nat)
  | iv
  | nonceLength
  | ciphertext
  | tag
  | notText
  | password (password : String)
deriving DecidableEq, Repr

/-- The verdict on a key text and a ciphertext. Each case says that nothing was wrong before. -/
inductive Judged (keyText ciphertext : String) : Verdict → Prop where
  | parts (wrong : keyText.toList.count keySeparator ≠ 1) : Judged keyText ciphertext .parts
  | key {keyPart iv : String} (parts : HasParts keyText keyPart iv)
      (wrong : ∀ key, ¬ Base64.Spells keyPart key) : Judged keyText ciphertext .key
  | keyLength {keyPart iv : String} {key : Bytes} (parts : HasParts keyText keyPart iv)
      (spelled : Base64.Spells keyPart key) (wrong : key.length ≠ Aes.keyLength) :
      Judged keyText ciphertext (.keyLength key.length)
  | iv {iv : String} {key : Bytes} (held : HasKey keyText iv key)
      (wrong : ∀ nonce, ¬ Base64.Spells iv nonce) : Judged keyText ciphertext .iv
  | nonceLength {iv : String} {key nonce : Bytes} (held : HasKey keyText iv key)
      (spelled : Base64.Spells iv nonce) (wrong : nonce.length ≠ Gcm.nonceLength) :
      Judged keyText ciphertext .nonceLength
  | ciphertext {key nonce : Bytes} (held : HasNonce keyText key nonce)
      (wrong : ∀ sealedBytes, ¬ Base64.Spells ciphertext sealedBytes) :
      Judged keyText ciphertext .ciphertext
  | tag {key nonce sealedBytes : Bytes} (held : HasSealed keyText ciphertext key nonce sealedBytes)
      (wrong : ¬ Gcm.IsAuthentic (Aes.encrypt key) nonce sealedBytes) :
      Judged keyText ciphertext .tag
  | notText {key nonce plain : Bytes}
      (held : HasSealed keyText ciphertext key nonce (Aes.encipher key nonce plain))
      (wrong : ∀ text, Utf8.ofString text ≠ plain) : Judged keyText ciphertext .notText
  | password {key nonce : Bytes} {password : String}
      (held : HasSealed keyText ciphertext key nonce
        (Aes.encipher key nonce (Utf8.ofString password))) :
      Judged keyText ciphertext (.password password)

/-! ## Readers and what is written -/

section Readers

variable {keyText keyPart iv text : String} {key nonce sealedBytes : Bytes}

theorem Base64.spells_iff_decode : Spells text key ↔ decode text = .ok key :=
  decode_eq_ok_iff_trim.symm

theorem Base64.decode_eq_error_of_not_spells (wrong : ∀ bytes, ¬ Spells text bytes) :
    ∃ f, decode text = .error f := by
  cases decoded : decode text with
  | error f => exact ⟨f, rfl⟩
  | ok bytes => exact absurd (spells_iff_decode.2 decoded) (wrong bytes)

theorem Base64.not_spells_of_error {f : DecodeError} (wrong : decode text = .error f)
    (bytes : Bytes) : ¬ Spells text bytes := by
  intro spelled
  cases wrong.symm.trans (spells_iff_decode.1 spelled)

theorem hasParts_iff : HasParts keyText keyPart iv ↔ keyParts? keyText = some (keyPart, iv) := by
  rw [keyParts?_eq_some_iff]
  exact ⟨fun h => ⟨h.whole, h.single⟩, fun h => ⟨h.1, h.2⟩⟩

/-- Bytes are deciphered exactly if they are authentic. -/
theorem Gcm.isAuthentic_iff {cipher : Block → Block} :
    IsAuthentic cipher nonce sealedBytes ↔
      ∃ plain, decipher cipher nonce sealedBytes = some plain := by
  unfold decipher
  constructor
  · rintro ⟨long, verifies⟩
    rw [if_neg (by omega)]
    exact ⟨_, if_pos verifies⟩
  · rintro ⟨plain, opened⟩
    split at opened
    · cases opened
    · next long =>
        dsimp only at opened
        split at opened
        · next verifies => exact ⟨by omega, verifies⟩
        · cases opened

end Readers

/-! ## The verdict computed -/

/-- The verdict on sealed bytes. -/
def judgeSealed (key nonce sealedBytes : Bytes) : Verdict :=
  match Aes.decipher key nonce sealedBytes with
  | none => .tag
  | some plain =>
    match Utf8.toString? plain with
    | none => .notText
    | some password => .password password

/-- The verdict on a ciphertext where key and nonce are right. -/
def judgeCiphertext (ciphertext : String) (key nonce : Bytes) : Verdict :=
  match Base64.decode ciphertext with
  | .error _ => .ciphertext
  | .ok sealedBytes => judgeSealed key nonce sealedBytes

/-- The verdict on an initial vector and a ciphertext where the key is right. -/
def judgeIv (ciphertext iv : String) (key : Bytes) : Verdict :=
  match Base64.decode iv with
  | .error _ => .iv
  | .ok nonce =>
    if nonce.length = Gcm.nonceLength then judgeCiphertext ciphertext key nonce else .nonceLength

/-- The verdict on a key text and a ciphertext. -/
def judge (keyText ciphertext : String) : Verdict :=
  match keyParts? keyText with
  | none => .parts
  | some (keyPart, iv) =>
    match Base64.decode keyPart with
    | .error _ => .key
    | .ok key =>
      if key.length = Aes.keyLength then judgeIv ciphertext iv key else .keyLength key.length

section Judge

variable {keyText ciphertext iv : String} {key nonce sealedBytes : Bytes}

theorem HasKey.judge_eq (held : HasKey keyText iv key) :
    judge keyText ciphertext = judgeIv ciphertext iv key := by
  obtain ⟨keyPart, parts, spelled⟩ := held.spelled
  simp only [judge, hasParts_iff.1 parts, Base64.spells_iff_decode.1 spelled, if_pos held.length]

theorem HasNonce.judge_eq (held : HasNonce keyText key nonce) :
    judge keyText ciphertext = judgeCiphertext ciphertext key nonce := by
  obtain ⟨iv, hasKey, spelled⟩ := held.spelled
  simp only [hasKey.judge_eq, judgeIv, Base64.spells_iff_decode.1 spelled, if_pos held.length]

theorem HasSealed.judge_eq (held : HasSealed keyText ciphertext key nonce sealedBytes) :
    judge keyText ciphertext = judgeSealed key nonce sealedBytes := by
  simp only [held.nonce.judge_eq, judgeCiphertext, Base64.spells_iff_decode.1 held.spelled]

theorem judgeSealed_encipher (key nonce plain : Bytes) :
    judgeSealed key nonce (Aes.encipher key nonce plain) =
      match Utf8.toString? plain with
      | none => .notText
      | some password => .password password := by
  rw [judgeSealed, Aes.decipher, Aes.encipher, Gcm.decipher_encipher]

theorem Judged.judge_eq {v : Verdict} (judged : Judged keyText ciphertext v) :
    judge keyText ciphertext = v := by
  cases judged with
  | parts wrong => simp only [judge, keyParts?_eq_none_iff.2 wrong]
  | key parts wrong =>
    obtain ⟨f, undecoded⟩ := Base64.decode_eq_error_of_not_spells wrong
    simp only [judge, hasParts_iff.1 parts, undecoded]
  | keyLength parts spelled wrong =>
    simp only [judge, hasParts_iff.1 parts, Base64.spells_iff_decode.1 spelled, if_neg wrong]
  | iv held wrong =>
    obtain ⟨f, undecoded⟩ := Base64.decode_eq_error_of_not_spells wrong
    simp only [held.judge_eq, judgeIv, undecoded]
  | nonceLength held spelled wrong =>
    simp only [held.judge_eq, judgeIv, Base64.spells_iff_decode.1 spelled, if_neg wrong]
  | ciphertext held wrong =>
    obtain ⟨f, undecoded⟩ := Base64.decode_eq_error_of_not_spells wrong
    simp only [held.judge_eq, judgeCiphertext, undecoded]
  | @tag key nonce sealedBytes held wrong =>
    rw [held.judge_eq, judgeSealed]
    cases opened : Aes.decipher key nonce sealedBytes with
    | none => rfl
    | some plain => exact absurd (Gcm.isAuthentic_iff.2 ⟨plain, opened⟩) wrong
  | @notText key nonce plain held wrong =>
    rw [held.judge_eq, judgeSealed_encipher]
    cases read : Utf8.toString? plain with
    | none => rfl
    | some text => exact absurd (Utf8.toString?_eq_some_iff.1 read) (wrong text)
  | password held => rw [held.judge_eq, judgeSealed_encipher, Utf8.toString?_ofString]

theorem judged_judgeSealed (held : HasSealed keyText ciphertext key nonce sealedBytes) :
    Judged keyText ciphertext (judgeSealed key nonce sealedBytes) := by
  unfold judgeSealed
  split
  · next refused =>
      refine .tag held fun authentic => ?_
      obtain ⟨plain, opened⟩ := Gcm.isAuthentic_iff.1 authentic
      cases refused.symm.trans opened
  · next plain opened =>
      obtain rfl : sealedBytes = Aes.encipher key nonce plain := Gcm.decipher_eq_some_iff.1 opened
      split
      · next unread =>
          refine .notText held fun text same => ?_
          cases unread.symm.trans (Utf8.toString?_eq_some_iff.2 same)
      · next password read =>
          obtain rfl := Utf8.toString?_eq_some_iff.1 read
          exact .password held

theorem judged_judgeIv (held : HasKey keyText iv key) :
    Judged keyText ciphertext (judgeIv ciphertext iv key) := by
  unfold judgeIv
  split
  · next f undecoded => exact .iv held (Base64.not_spells_of_error undecoded)
  · next nonce decoded =>
      have spelled := Base64.spells_iff_decode.2 decoded
      split
      · next length =>
          have hasNonce : HasNonce keyText key nonce := ⟨⟨iv, held, spelled⟩, length⟩
          unfold judgeCiphertext
          split
          · next f undecoded => exact .ciphertext hasNonce (Base64.not_spells_of_error undecoded)
          · next sealedBytes given =>
              exact judged_judgeSealed ⟨hasNonce, Base64.spells_iff_decode.2 given⟩
      · next other => exact .nonceLength held spelled other

theorem judged_judge (keyText ciphertext : String) :
    Judged keyText ciphertext (judge keyText ciphertext) := by
  unfold judge
  split
  · next none => exact .parts (keyParts?_eq_none_iff.1 none)
  · next keyPart iv split' =>
      have parts := hasParts_iff.2 split'
      split
      · next f undecoded => exact .key parts (Base64.not_spells_of_error undecoded)
      · next key decoded =>
          have spelled := Base64.spells_iff_decode.2 decoded
          split
          · next length => exact judged_judgeIv ⟨⟨keyPart, parts, spelled⟩, length⟩
          · next other => exact .keyLength parts spelled other

/-- Every key text and ciphertext have one verdict. -/
theorem judged_iff {v : Verdict} : Judged keyText ciphertext v ↔ judge keyText ciphertext = v := by
  constructor
  · exact Judged.judge_eq
  · rintro rfl
    exact judged_judge keyText ciphertext

/-- The length of the key is judged before the base64 of what comes behind it. -/
example : judge "AAAA|!" "!" = .keyLength 3 := by decide +kernel

end Judge

/-! ## The verdict decides -/

/-- What a decryption comes to under a verdict. -/
def Verdict.Decides (c : Custody Entropy) (r : Except LaunchError Unit × Custody Entropy) :
    Verdict → Prop
  | .parts => r = (.error .invalidKeyFormat, c)
  | .key | .iv | .ciphertext => ∃ f, r = (.error (.crypto (.base64 f)), c)
  | .keyLength actual => r = (.error (.crypto (.keyLength Aes.keyLength actual)), c)
  | .nonceLength | .tag => r = (.error (.crypto .cipher), c)
  | .notText => r = (.error (.crypto .notText), c)
  | .password recovered =>
    r = (.ok (), ⟨{ c.profile with password := recovered, encryptionKey := "" }, c.device⟩)

theorem Refused.decides {c : Custody Entropy} {ciphertext : String} {e : LaunchError}
    (refused : Refused c.profile.encryptionKey ciphertext e) :
    (judge c.profile.encryptionKey ciphertext).Decides c (.error e, c) := by
  cases refused with
  | parts split =>
    simp only [judge, split]
    rfl
  | keyPart split wrong =>
    simp only [judge, split, wrong]
    exact ⟨_, rfl⟩
  | keyLength split decoded wrong =>
    simp only [judge, split, decoded, if_neg wrong]
    rfl
  | iv split decoded length wrong =>
    simp only [judge, split, decoded, if_pos length, judgeIv, wrong]
    exact ⟨_, rfl⟩
  | nonceLength split decoded length spelled wrong =>
    simp only [judge, split, decoded, if_pos length, judgeIv, spelled, if_neg wrong]
    rfl
  | ciphertext split decoded length spelled fits wrong =>
    simp only [judge, split, decoded, if_pos length, judgeIv, spelled, if_pos fits,
      judgeCiphertext, wrong]
    exact ⟨_, rfl⟩
  | tag split decoded length spelled fits given wrong =>
    simp only [judge, split, decoded, if_pos length, judgeIv, spelled, if_pos fits,
      judgeCiphertext, given, judgeSealed, wrong]
    rfl
  | text split decoded length spelled fits given opened wrong =>
    simp only [judge, split, decoded, if_pos length, judgeIv, spelled, if_pos fits,
      judgeCiphertext, given, judgeSealed, opened, wrong]
    rfl

/-- A decryption comes to what the verdict says. -/
theorem Verdict.decides_decryptPassword (c : Custody Entropy) (ciphertext : String) :
    (judge c.profile.encryptionKey ciphertext).Decides c
      ((decryptPassword .aesGcm ciphertext).on c) := by
  have outcome := decryptPassword_cases CipherDevice.aesGcm ciphertext c
  have refused {e : LaunchError}
      (failed : ((decryptPassword .aesGcm ciphertext).on c).1 = .error e) :=
    (refused_of_decryptPassword failed).decides
  generalize (decryptPassword CipherDevice.aesGcm ciphertext).on c = r at outcome refused ⊢
  cases outcome with
  | noParts split => exact refused rfl
  | notBase64 split decoded => exact refused rfl
  | notDecrypted split decoded failed =>
    -- decrypting draws no random bytes
    obtain rfl : c.device = _ := congrArg Prod.snd failed
    exact refused rfl
  | notText split decoded decrypted text =>
    obtain rfl : c.device = _ := congrArg Prod.snd decrypted
    exact refused rfl
  | @exchanged keyPart iv key plain password s split decoded decrypted text =>
    obtain rfl : c.device = s := congrArg Prod.snd decrypted
    obtain rfl : Utf8.ofString password = plain := Utf8.toString?_eq_some_iff.1 text
    obtain ⟨length, nonce, fits, spelled, given⟩ :=
      AesGcmText.texts_of_decrypt (congrArg Prod.fst decrypted)
    have held : HasKey c.profile.encryptionKey iv key :=
      ⟨⟨keyPart, hasParts_iff.2 split, Base64.spells_iff_decode.2 decoded⟩, length⟩
    have judged : Judged c.profile.encryptionKey ciphertext (.password password) :=
      .password ⟨⟨⟨iv, held, spelled⟩, fits⟩, given⟩
    rw [judged.judge_eq]
    rfl

/-- **A decryption is classified by the first thing that is wrong.** For every profile and every
ciphertext there is one verdict (`Judged`), and with the device in use:

* The key text has an invalid format exactly if it does not hold one separator.
* Base64 is at fault exactly if it is in the first part of the key text, or in the second part after
  a key of the right length, or in the ciphertext after a nonce of the right length.
* The length of a key is at fault exactly if the first part spells a key of another length than 32
  bytes; both lengths are told.
* The cipher fails exactly if the second part spells a nonce of another length than 12 bytes, or if
  the sealed bytes have no room for a tag or end in the wrong one.
* There is no text exactly if what was sealed is no UTF-8.
* Otherwise, and only then, the decryption succeeds. The password is the text that was sealed, and
  the profile changes in nothing but the password and the key text. -/
theorem decryption_classified (c : Custody Entropy) (ciphertext : String) :
    let r := (decryptPassword .aesGcm ciphertext).on c
    let judged := Judged c.profile.encryptionKey ciphertext
    (∃! v, judged v) ∧
    (r.1 = .error .invalidKeyFormat ↔ judged .parts) ∧
    ((∃ f, r.1 = .error (.crypto (.base64 f))) ↔ judged .key ∨ judged .iv ∨ judged .ciphertext) ∧
    (∀ expected actual, r.1 = .error (.crypto (.keyLength expected actual)) ↔
      expected = 32 ∧ judged (.keyLength actual)) ∧
    (r.1 = .error (.crypto .cipher) ↔ judged .nonceLength ∨ judged .tag) ∧
    (r.1 = .error (.crypto .notText) ↔ judged .notText) ∧
    (∀ after, r = (.ok (), after) ↔ ∃ password, judged (.password password) ∧
      after = ⟨{ c.profile with password, encryptionKey := "" }, c.device⟩) := by
  intro r judged
  have decided : (judge c.profile.encryptionKey ciphertext).Decides c r :=
    Verdict.decides_decryptPassword c ciphertext
  simp only [judged, judged_iff]
  generalize judge c.profile.encryptionKey ciphertext = v at decided
  refine ⟨⟨v, rfl, fun w same => same.symm⟩, ?_⟩
  cases v with
  | parts | nonceLength | tag | notText =>
    have result : r = _ := decided
    simp [result]
  | key | iv | ciphertext =>
    obtain ⟨f, result⟩ : ∃ f, r = _ := decided
    simp [result]
  | keyLength actual =>
    have result : r = _ := decided
    simp [result, Aes.keyLength, eq_comm]
  | password recovered =>
    have result : r = _ := decided
    simp [result, eq_comm]

end SessionHandoff
