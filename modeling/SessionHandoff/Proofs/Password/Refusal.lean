import SessionHandoff.Proofs.Cipher.Faults
import SessionHandoff.Proofs.Password.Exchange

/-!
# What a refused decryption tells

A decryption is refused for the first thing that is wrong: the parts of the key text, the text of
the key, its length, the initial vector, the ciphertext, the tag, the text of the password
(`Refused`, `refused_of_decryptPassword`).

Two refusals of one kind may differ in two things only: in the number of bytes of a key of the wrong
length, and in a byte of the three texts that is shown with its offset. `refusal_wording_iff` says
so of any two decryptions whose texts have the same lengths, and that a byte that is shown does
stand in one of the texts. `refusal_wording_shows_symbol` has two key texts that are told apart by
the last symbol of their keys.
-/

set_option autoImplicit false

namespace SessionHandoff

/-! ## The first thing that is wrong -/

/-- A decryption with the device in use is refused with an error. The cases are in the order in
which things are looked at, and each says that nothing was wrong before. -/
inductive Refused (keyText ciphertext : String) : LaunchError → Prop where
  | parts (split : keyParts? keyText = none) : Refused keyText ciphertext .invalidKeyFormat
  | keyPart {keyPart iv : String} {f : Base64.DecodeError}
      (split : keyParts? keyText = some (keyPart, iv)) (wrong : Base64.decode keyPart = .error f) :
      Refused keyText ciphertext (.crypto (.base64 f))
  | keyLength {keyPart iv : String} {key : Bytes}
      (split : keyParts? keyText = some (keyPart, iv)) (decoded : Base64.decode keyPart = .ok key)
      (wrong : key.length ≠ Aes.keyLength) :
      Refused keyText ciphertext (.crypto (.keyLength Aes.keyLength key.length))
  | iv {keyPart iv : String} {key : Bytes} {f : Base64.DecodeError}
      (split : keyParts? keyText = some (keyPart, iv)) (decoded : Base64.decode keyPart = .ok key)
      (length : key.length = Aes.keyLength) (wrong : Base64.decode iv = .error f) :
      Refused keyText ciphertext (.crypto (.base64 f))
  | nonceLength {keyPart iv : String} {key nonce : Bytes}
      (split : keyParts? keyText = some (keyPart, iv)) (decoded : Base64.decode keyPart = .ok key)
      (length : key.length = Aes.keyLength) (spelled : Base64.decode iv = .ok nonce)
      (wrong : nonce.length ≠ Gcm.nonceLength) : Refused keyText ciphertext (.crypto .cipher)
  | ciphertext {keyPart iv : String} {key nonce : Bytes} {f : Base64.DecodeError}
      (split : keyParts? keyText = some (keyPart, iv)) (decoded : Base64.decode keyPart = .ok key)
      (length : key.length = Aes.keyLength) (spelled : Base64.decode iv = .ok nonce)
      (fits : nonce.length = Gcm.nonceLength) (wrong : Base64.decode ciphertext = .error f) :
      Refused keyText ciphertext (.crypto (.base64 f))
  | tag {keyPart iv : String} {key nonce sealedBytes : Bytes}
      (split : keyParts? keyText = some (keyPart, iv)) (decoded : Base64.decode keyPart = .ok key)
      (length : key.length = Aes.keyLength) (spelled : Base64.decode iv = .ok nonce)
      (fits : nonce.length = Gcm.nonceLength) (given : Base64.decode ciphertext = .ok sealedBytes)
      (wrong : Aes.decipher key nonce sealedBytes = none) :
      Refused keyText ciphertext (.crypto .cipher)
  | text {keyPart iv : String} {key nonce sealedBytes plain : Bytes}
      (split : keyParts? keyText = some (keyPart, iv)) (decoded : Base64.decode keyPart = .ok key)
      (length : key.length = Aes.keyLength) (spelled : Base64.decode iv = .ok nonce)
      (fits : nonce.length = Gcm.nonceLength) (given : Base64.decode ciphertext = .ok sealedBytes)
      (opened : Aes.decipher key nonce sealedBytes = some plain)
      (wrong : Utf8.toString? plain = none) : Refused keyText ciphertext (.crypto .notText)

section Refused

variable {keyText ciphertext keyPart iv : String} {key : Bytes}
  (split : keyParts? keyText = some (keyPart, iv)) (decoded : Base64.decode keyPart = .ok key)

include split decoded

/-- With a key at hand, its length is judged first, then the initial vector, then the ciphertext. -/
theorem refused_of_decrypt {e : CryptoError}
    (refused : AesGcmText.decrypt ciphertext key iv = .error e) :
    Refused keyText ciphertext (.crypto e) := by
  rcases bind_eq_error.1 refused with wrong | ⟨u, checked, refused⟩
  · unfold AesGcmText.checkKey at wrong
    split at wrong
    · cases wrong
    · next other =>
        cases wrong
        exact .keyLength split decoded other
  have length := AesGcmText.length_of_checkKey checked
  rcases bind_eq_error.1 refused with wrong | ⟨nonce, spelled, refused⟩
  · obtain ⟨f, undecoded, rfl⟩ := mapError_eq_error.1 wrong
    exact .iv split decoded length undecoded
  have spelled := mapError_eq_ok.1 spelled
  dsimp only at refused
  split at refused
  · next other =>
      cases refused
      exact .nonceLength split decoded length spelled other
  next fits =>
    have fits : nonce.length = Gcm.nonceLength := Decidable.of_not_not fits
    rcases bind_eq_error.1 refused with wrong | ⟨sealedBytes, given, refused⟩
    · obtain ⟨f, undecoded, rfl⟩ := mapError_eq_error.1 wrong
      exact .ciphertext split decoded length spelled fits undecoded
    have given := mapError_eq_ok.1 given
    cases opened : Aes.decipher key nonce sealedBytes with
    | none =>
      simp only [opened] at refused
      cases refused
      exact .tag split decoded length spelled fits given opened
    | some plain =>
      simp only [opened] at refused
      cases refused

/-- What opens and is no text is the last thing that can be wrong. -/
theorem refused_of_opened {plain : Bytes}
    (opened : AesGcmText.decrypt ciphertext key iv = .ok plain)
    (wrong : Utf8.toString? plain = none) : Refused keyText ciphertext (.crypto .notText) := by
  obtain ⟨length, nonce, fits, spelled, given⟩ := AesGcmText.texts_of_decrypt opened
  have deciphered : Aes.decipher key nonce (Aes.encipher key nonce plain) = some plain := by
    rw [Aes.decipher, Aes.encipher, Gcm.decipher_encipher]
  exact .text split decoded length (Base64.decode_eq_ok_iff_trim.2 spelled) fits
    (Base64.decode_eq_ok_iff_trim.2 given) deciphered wrong

end Refused

/-- A decryption with the device in use is refused for the first thing that is wrong. -/
theorem refused_of_decryptPassword {c : Custody Entropy} {ciphertext : String} {e : LaunchError}
    (failed : ((decryptPassword .aesGcm ciphertext).on c).1 = .error e) :
    Refused c.profile.encryptionKey ciphertext e := by
  have outcome := decryptPassword_cases CipherDevice.aesGcm ciphertext c
  generalize (decryptPassword CipherDevice.aesGcm ciphertext).on c = r at outcome failed
  cases outcome with
  | noParts split =>
    cases failed
    exact .parts split
  | notBase64 split decoded =>
    cases failed
    exact .keyPart split decoded
  | notDecrypted split decoded refused =>
    cases failed
    exact refused_of_decrypt split decoded (congrArg Prod.fst refused)
  | notText split decoded decrypted text =>
    cases failed
    exact refused_of_opened split decoded (congrArg Prod.fst decrypted) text
  | exchanged split decoded decrypted text => cases failed

/-! ## Kinds and lengths -/

/-- The kinds of failures of the cipher and its texts. -/
inductive CryptoError.Kind where
  | randomSource | base64 | cipher | keyLength | notText
deriving DecidableEq, Repr

/-- The kind of a failure, without what it shows. -/
def CryptoError.kind : CryptoError → CryptoError.Kind
  | .randomSource => .randomSource
  | .base64 _ => .base64
  | .cipher => .cipher
  | .keyLength _ _ => .keyLength
  | .notText => .notText

/-- The kinds of failures of a handoff. -/
inductive LaunchError.Kind where
  | io | config | field | invalidKeyFormat | crypto (kind : CryptoError.Kind)
  | plaintextPassword | process | alreadyInitialized
deriving DecidableEq, Repr

/-- The kind of a failure, without what it shows. -/
def LaunchError.kind : LaunchError → LaunchError.Kind
  | .io _ => .io
  | .config _ => .config
  | .field _ => .field
  | .invalidKeyFormat => .invalidKeyFormat
  | .crypto e => .crypto e.kind
  | .plaintextPassword => .plaintextPassword
  | .process _ => .process
  | .alreadyInitialized => .alreadyInitialized

/-- The byte of a text that a failure shows, with its offset. -/
def LaunchError.shownByte? : LaunchError → Option (UInt8 × Nat)
  | .crypto (.base64 f) => f.shown?
  | _ => none

/-- The length of a key that a failure shows. -/
def LaunchError.shownLength? : LaunchError → Option Nat
  | .crypto (.keyLength _ actual) => some actual
  | _ => none

/-- The three texts of a decryption: the key, the initial vector and the ciphertext. -/
def decryptedTexts (keyText ciphertext : String) : List String :=
  match keyParts? keyText with
  | none => []
  | some (keyPart, iv) => [keyPart, iv, ciphertext]

/-- The bytes of a text without the blanks at its ends. -/
def trimmedBytes (text : String) : Bytes := Utf8.encode (Text.trim text.toList)

/-- The lengths of the three texts, blanks at their ends aside. -/
def decryptedLengths (keyText ciphertext : String) : List Nat :=
  (decryptedTexts keyText ciphertext).map fun text => (trimmedBytes text).length

/-! ## What refusals show -/

section Shown

variable {keyText ciphertext : String}

/-- The text that is no base64 is one of the three, and the texts before it are whole groups. -/
theorem Refused.exists_text {f : Base64.DecodeError}
    (refused : Refused keyText ciphertext (.crypto (.base64 f))) :
    ∃ early text late, decryptedTexts keyText ciphertext = early ++ text :: late ∧
      f.Describes 0 (trimmedBytes text) ∧
      ∀ t ∈ early, Base64.DecodeError.ofLength? (trimmedBytes t).length = none := by
  cases refused with
  | @keyPart keyPart iv _ split wrong =>
    refine ⟨[], keyPart, [iv, ciphertext], ?_, Base64.describes_of_decodeBytes wrong, ?_⟩
    · rw [decryptedTexts, split]
      rfl
    · intro t inside
      cases inside
  | @iv keyPart iv _ _ split decoded length wrong =>
    refine ⟨[keyPart], iv, [ciphertext], ?_, Base64.describes_of_decodeBytes wrong, ?_⟩
    · rw [decryptedTexts, split]
      rfl
    · intro t inside
      rw [List.mem_singleton.1 inside]
      exact Base64.ofLength?_of_decodeBytes decoded
  | @ciphertext keyPart iv _ _ _ split decoded length spelled fits wrong =>
    refine ⟨[keyPart, iv], ciphertext, [], ?_, Base64.describes_of_decodeBytes wrong, ?_⟩
    · rw [decryptedTexts, split]
      rfl
    · intro t inside
      simp only [List.mem_cons, List.not_mem_nil, or_false] at inside
      rcases inside with rfl | rfl
      · exact Base64.ofLength?_of_decodeBytes decoded
      · exact Base64.ofLength?_of_decodeBytes spelled

/-- A refusal that shows no byte is told by the lengths: it is the first that one of them forces. -/
theorem Refused.eq_of_lengths {f : Base64.DecodeError}
    (refused : Refused keyText ciphertext (.crypto (.base64 f))) (silent : f.shown? = none) :
    (decryptedLengths keyText ciphertext).findSome? Base64.DecodeError.ofLength? = some f := by
  obtain ⟨early, text, late, texts, describes, whole⟩ := refused.exists_text
  have forced := describes.ofLength?_eq silent
  rw [decryptedLengths, texts, List.map_append, List.map_cons, List.findSome?_append]
  have passed : (early.map fun t => (trimmedBytes t).length).findSome?
      Base64.DecodeError.ofLength? = none := by
    rw [List.findSome?_eq_none_iff]
    intro length inside
    obtain ⟨t, among, rfl⟩ := List.mem_map.1 inside
    exact whole t among
  rw [passed, Option.none_or, List.findSome?_cons, forced]

/-- A byte that is shown stands in one of the three texts at its offset. -/
theorem Refused.exists_shown {e : LaunchError} (refused : Refused keyText ciphertext e)
    {byte : UInt8} {offset : Nat} (shown : e.shownByte? = some (byte, offset)) :
    ∃ text ∈ decryptedTexts keyText ciphertext, (trimmedBytes text)[offset]? = some byte := by
  cases e with
  | crypto e =>
    cases e with
    | base64 f =>
      obtain ⟨early, text, late, texts, describes, -⟩ := refused.exists_text
      refine ⟨text, ?_, describes.stands shown⟩
      rw [texts]
      exact List.mem_append_right _ List.mem_cons_self
    | randomSource | cipher | keyLength _ _ | notText => cases shown
  | io _ | config _ | field _ | invalidKeyFormat | plaintextPassword | process _
  | alreadyInitialized => cases shown

end Shown

/-! ## Two refusals -/

section TwoRefusals

variable {k₁ k₂ t₁ t₂ : String} {e₁ e₂ : LaunchError}

/-- Refusals of one kind are the same, or they show something of a text or the length of a key. -/
theorem Refused.alike (r₁ : Refused k₁ t₁ e₁) (r₂ : Refused k₂ t₂ e₂)
    (sameKind : e₁.kind = e₂.kind) :
    e₁ = e₂ ∨ (∃ f₁ f₂, e₁ = .crypto (.base64 f₁) ∧ e₂ = .crypto (.base64 f₂)) ∨
      ∃ n₁ n₂, e₁ = .crypto (.keyLength Aes.keyLength n₁) ∧
        e₂ = .crypto (.keyLength Aes.keyLength n₂) := by
  cases r₁ with
  | parts split =>
    cases r₂ with
    | parts split => exact .inl rfl
    | keyPart | keyLength | iv | nonceLength | ciphertext | tag | text => cases sameKind
  | keyPart | iv | ciphertext =>
    cases r₂ with
    | keyPart | iv | ciphertext => exact .inr (.inl ⟨_, _, rfl, rfl⟩)
    | parts | keyLength | nonceLength | tag | text => cases sameKind
  | keyLength =>
    cases r₂ with
    | keyLength => exact .inr (.inr ⟨_, _, rfl, rfl⟩)
    | parts | keyPart | iv | nonceLength | ciphertext | tag | text => cases sameKind
  | nonceLength | tag =>
    cases r₂ with
    | nonceLength | tag => exact .inl rfl
    | parts | keyPart | keyLength | iv | ciphertext | text => cases sameKind
  | text =>
    cases r₂ with
    | text => exact .inl rfl
    | parts | keyPart | keyLength | iv | nonceLength | ciphertext | tag => cases sameKind

/-- Of one kind, refusals with the same wording are the same. -/
theorem Refused.message_inj (r₁ : Refused k₁ t₁ e₁) (r₂ : Refused k₂ t₂ e₂)
    (sameKind : e₁.kind = e₂.kind) : e₁.message = e₂.message ↔ e₁ = e₂ := by
  constructor
  · intro same
    rcases r₁.alike r₂ sameKind with rfl | ⟨f₁, f₂, rfl, rfl⟩ | ⟨n₁, n₂, rfl, rfl⟩
    · rfl
    · have causes := (String.append_right_inj _).1 ((String.append_right_inj _).1 same)
      rw [Base64.DecodeError.message_inj.1 causes]
    · have causes := (String.append_right_inj _).1 same
      have lengths := (String.append_right_inj _).1 causes
      rw [Text.decimalString_inj.1 lengths]
  · intro same
    rw [same]

/-- Of one kind and with texts of the same lengths, refusals are the same exactly if they show the
same byte at the same offset, or none, and the same length of a key, or none. -/
theorem Refused.eq_iff_shown (r₁ : Refused k₁ t₁ e₁) (r₂ : Refused k₂ t₂ e₂)
    (sameKind : e₁.kind = e₂.kind) (lengths : decryptedLengths k₁ t₁ = decryptedLengths k₂ t₂) :
    e₁ = e₂ ↔ e₁.shownByte? = e₂.shownByte? ∧ e₁.shownLength? = e₂.shownLength? := by
  constructor
  · rintro rfl
    exact ⟨rfl, rfl⟩
  · rintro ⟨bytes, keyLengths⟩
    rcases r₁.alike r₂ sameKind with rfl | ⟨f₁, f₂, rfl, rfl⟩ | ⟨n₁, n₂, rfl, rfl⟩
    · rfl
    · have shown : f₁.shown? = f₂.shown? := bytes
      cases first : f₁.shown? with
      | none =>
        -- both are what the lengths force, and these are the same
        have forced := r₁.eq_of_lengths first
        rw [lengths, r₂.eq_of_lengths (shown.symm.trans first)] at forced
        rw [Option.some.inj forced]
      | some place =>
        obtain ⟨byte, offset⟩ := place
        obtain ⟨_, text₁, _, _, describes₁, _⟩ := r₁.exists_text
        obtain ⟨_, text₂, _, _, describes₂, _⟩ := r₂.exists_text
        rw [describes₁.eq_of_shown describes₂ first (shown.symm.trans first)]
    · rw [Option.some.inj keyLengths]

end TwoRefusals

/-! ## The wordings -/

/-- **What the wording of a refused decryption tells.** Let two decryptions with the device in use
be refused with errors of one kind.

* The wordings are the same exactly if the errors are.
* Where the three texts have the same lengths, blanks at their ends aside, they are the same exactly
  if the errors show the same byte at the same offset, or both none, and the same length of a key,
  or both none. So nothing is told but kind and lengths, unless a byte is shown.
* A byte that is shown stands in one of the three texts at its offset. -/
theorem refusal_wording_iff {c₁ c₂ : Custody Entropy} {t₁ t₂ : String} {e₁ e₂ : LaunchError}
    (failed₁ : ((decryptPassword .aesGcm t₁).on c₁).1 = .error e₁)
    (failed₂ : ((decryptPassword .aesGcm t₂).on c₂).1 = .error e₂)
    (sameKind : e₁.kind = e₂.kind) :
    (e₁.message = e₂.message ↔ e₁ = e₂) ∧
    (decryptedLengths c₁.profile.encryptionKey t₁ = decryptedLengths c₂.profile.encryptionKey t₂ →
      (e₁.message = e₂.message ↔
        e₁.shownByte? = e₂.shownByte? ∧ e₁.shownLength? = e₂.shownLength?)) ∧
    ∀ byte offset, e₁.shownByte? = some (byte, offset) →
      ∃ text ∈ decryptedTexts c₁.profile.encryptionKey t₁,
        (trimmedBytes text)[offset]? = some byte := by
  have refused₁ := refused_of_decryptPassword failed₁
  have refused₂ := refused_of_decryptPassword failed₂
  have wording := refused₁.message_inj refused₂ sameKind
  refine ⟨wording, ?_, ?_⟩
  · intro lengths
    exact wording.trans (refused₁.eq_iff_shown refused₂ sameKind lengths)
  · intro byte offset shown
    exact refused₁.exists_shown shown

/-- Two keys and two initial vectors that are not filled up: the wordings are the same, though no
symbol of the texts is. A third initial vector holds a byte that is no symbol, and its wording shows
this byte. -/
theorem refusal_wording_iff_unfilled :
    let zeros := "AAAAAAAAAAAAAAAAAAAAAAAAAAAAAAAAAAAAAAAAAAA="
    let ones := "//////////////////////////////////////////8="
    let held (key iv : String) : Custody Entropy := ⟨{ encryptionKey := key ++ "|" ++ iv }, []⟩
    ∃ e₁ e₂ e₃,
      ((decryptPassword .aesGcm "AAAA").on (held zeros "AAA")).1 = .error e₁ ∧
      ((decryptPassword .aesGcm "zzzz").on (held ones "zzz")).1 = .error e₂ ∧
      ((decryptPassword .aesGcm "AAAA").on (held zeros "A!A")).1 = .error e₃ ∧
      e₁.kind = e₂.kind ∧ e₃.kind = e₁.kind ∧
      e₁.message = e₂.message ∧ e₃.message ≠ e₁.message ∧
      e₃.shownByte? = some (33, 1) ∧
      ∃ text ∈ decryptedTexts (zeros ++ "|" ++ "A!A") "AAAA",
        (trimmedBytes text)[1]? = some 33 := by
  intro zeros ones held
  have unfilled₁ : ((decryptPassword .aesGcm "AAAA").on (held zeros "AAA")).1 =
      .error (.crypto (.base64 .invalidPadding)) := by decide +kernel
  have unfilled₂ : ((decryptPassword .aesGcm "zzzz").on (held ones "zzz")).1 =
      .error (.crypto (.base64 .invalidPadding)) := by decide +kernel
  have noSymbol : ((decryptPassword .aesGcm "AAAA").on (held zeros "A!A")).1 =
      .error (.crypto (.base64 (.invalidSymbol 33 1))) := by decide +kernel
  have same := (refusal_wording_iff unfilled₁ unfilled₂ rfl).2.1 (by decide +kernel)
  obtain ⟨-, lengths, stands⟩ := refusal_wording_iff noSymbol unfilled₁ rfl
  have other := lengths (by decide +kernel)
  refine ⟨_, _, _, unfilled₁, unfilled₂, noSymbol, rfl, rfl, same.2 ⟨rfl, rfl⟩, ?_, rfl,
    stands 33 1 rfl⟩
  intro told
  cases (other.1 told).1

/-- Two key texts of one length, whose keys differ in their last symbol alone: the wordings of the
refusals show this symbol. -/
theorem refusal_wording_shows_symbol :
    let key₁ := "AAAAAAAAAAAAAAAAAAAAAAAAAAAAAAAAAAAAAAAAAAB="
    let key₂ := "AAAAAAAAAAAAAAAAAAAAAAAAAAAAAAAAAAAAAAAAAAC="
    let iv := "AAAAAAAAAAAAAAAA"
    let held (key : String) : Custody Entropy := ⟨{ encryptionKey := key ++ "|" ++ iv }, []⟩
    ∃ e₁ e₂,
      ((decryptPassword .aesGcm "AAAA").on (held key₁)).1 = .error e₁ ∧
      ((decryptPassword .aesGcm "AAAA").on (held key₂)).1 = .error e₂ ∧
      e₁.kind = e₂.kind ∧
      keyParts? (held key₁).profile.encryptionKey = some (key₁, iv) ∧
      keyParts? (held key₂).profile.encryptionKey = some (key₂, iv) ∧
      key₁.length = key₂.length ∧
      e₁.message = "Crypto error: Base64 decode failed: Invalid last symbol 66, offset 42." ∧
      e₂.message = "Crypto error: Base64 decode failed: Invalid last symbol 67, offset 42." ∧
      e₁.message ≠ e₂.message := by
  intro key₁ key₂ iv held
  have told₁ : ((decryptPassword .aesGcm "AAAA").on (held key₁)).1 =
      .error (.crypto (.base64 (.invalidLastSymbol 66 42))) := by decide +kernel
  have told₂ : ((decryptPassword .aesGcm "AAAA").on (held key₂)).1 =
      .error (.crypto (.base64 (.invalidLastSymbol 67 42))) := by decide +kernel
  exact ⟨_, _, told₁, told₂, rfl, by decide +kernel, by decide +kernel, by decide +kernel,
    by decide +kernel, by decide +kernel, by decide +kernel⟩

end SessionHandoff
