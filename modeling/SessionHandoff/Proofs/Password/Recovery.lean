import SessionHandoff.Proofs.Password.Lifecycle

/-!
# Getting a password back

A password that is not in its profile should be in some ciphertext that was handed out
(`Custody.Recoverable`). For that a device has to decrypt what it encrypted
(`CipherDevice.Inverts`), as the one in use does. It is not enough: an encryption of a profile that
holds a key text replaces the only key that opens the earlier ciphertext, and an older ciphertext
may be decrypted under a newer key.

`Custody.Orderly` excludes these two. The invariant of an orderly history is `Custody.Held`: either
the profile holds the password and no key text, or it holds the key text under which the latest
ciphertext gives the password. `Custody.password_recoverable` follows.
-/

set_option autoImplicit false

namespace SessionHandoff

/-! ## Devices that decrypt what they encrypted -/

section Devices

variable {σ : Type}

/-- Under the key and the initial vector of an encryption, its ciphertext decrypts to what was
encrypted, whenever that is tried. -/
def CipherDevice.Inverts (device : CipherDevice σ) : Prop :=
  ∀ (plain key : Bytes) (s s' : σ) (text : EncryptedText),
    device.encrypt plain key s = (.ok text, s') →
      ∀ later, (device.decrypt text.ciphertext key text.iv later).1 = .ok plain

/-- The device in use opens what it sealed, so that the results below hold of it. -/
theorem inverts_aesGcm : CipherDevice.aesGcm.Inverts := by
  intro plain key s s' text encrypted later
  obtain ⟨keyLength, nonce, nonceLength, -, rfl⟩ := AesGcmText.encrypt_eq_ok encrypted
  exact AesGcmText.decrypt_encryptWith keyLength nonceLength plain

/-- Initial vectors of the device in use are written in Base64, so the separator is in none. -/
theorem separatorFree_aesGcm : CipherDevice.aesGcm.SeparatorFree := by
  intro plain key s s' text encrypted
  obtain ⟨-, nonce, -, -, rfl⟩ := AesGcmText.encrypt_eq_ok encrypted
  exact keySeparator_not_mem_encode nonce

end Devices

theorem keyText_ne_empty (key : Bytes) (iv : String) : keyText key iv ≠ "" := by
  intro empty
  have letters := congrArg String.toList empty
  simp [keyText] at letters

/-! ## Recoverable passwords -/

/-- The ciphertext that a step handed out, if it did. -/
def CustodyStep.handedOut? {σ : Type} (t : CustodyStep σ) : Option String :=
  match t.result with
  | .ok ciphertext => ciphertext
  | .error _ => none

namespace Custody

variable {σ : Type}

/-- The custody that steps lead to. -/
def reached (c : Custody σ) (steps : List (CustodyStep σ)) : Custody σ :=
  steps.foldl (fun _ t => t.after) c

/-- The password is in the profile, or decrypting one of the ciphertexts succeeds and puts it
there. -/
def Recoverable (device : CipherDevice σ) (password : String) (ciphertexts : List String)
    (c : Custody σ) : Prop :=
  c.profile.password = password ∨
    ∃ ciphertext ∈ ciphertexts, ∃ c', (decryptPassword device ciphertext).on c = (.ok (), c') ∧
      c'.profile.password = password

instance (device : CipherDevice σ) (password : String) (ciphertexts : List String)
    (c : Custody σ) : Decidable (Recoverable device password ciphertexts c) :=
  decidable_of_iff (c.profile.password = password ∨ ∃ ciphertext ∈ ciphertexts,
      ((decryptPassword device ciphertext).on c).1.toOption = some () ∧
        ((decryptPassword device ciphertext).on c).2.profile.password = password) <| by
    refine or_congr_right (exists_congr fun ciphertext => and_congr_right fun _ => ?_)
    constructor
    · rintro ⟨succeeded, inside⟩
      exact ⟨_, Prod.ext (eq_ok_of_toOption succeeded) rfl, inside⟩
    · rintro ⟨c', succeeded, inside⟩
      rw [succeeded]
      exact ⟨rfl, inside⟩

/-- Steps of which no encryption succeeds on a profile that holds a key text, unless the password is
empty, and no decryption with another ciphertext than the latest. The latest ciphertext that was
handed out before the steps comes first. -/
def Orderly (password : String) : Option String → List (CustodyStep σ) → Prop
  | _, [] => True
  | latest, t :: rest =>
    (t.Encrypted → t.before.profile.encryptionKey = "" ∨ password = "") ∧
    (t.Decrypted → ∃ ciphertext, t.action = .decrypt ciphertext ∧ latest = some ciphertext) ∧
    Orderly password (t.handedOut?.or latest) rest

/-- What holds of a custody and the latest ciphertext in an orderly history: the profile has the
password and no key text, or a key text under which the ciphertext gives the password. -/
inductive Held (device : CipherDevice σ) (password : String) :
    Option String → Custody σ → Prop where
  | plain {latest : Option String} {c : Custody σ} (noKey : c.profile.encryptionKey = "")
      (inside : c.profile.password = password) : Held device password latest c
  | sealed {c : Custody σ} {key : Bytes} {text : EncryptedText}
      (empty : c.profile.password = "") (keyed : c.profile.encryptionKey = keyText key text.iv)
      (free : keySeparator ∉ text.iv.toList)
      (opens : ∀ s, (device.decrypt text.ciphertext key text.iv s).1 =
        .ok (Utf8.ofString password)) :
      Held device password (some text.ciphertext) c

section Steps

variable {device : CipherDevice σ} {c : Custody σ} {action : CustodyAction}

/-- A step hands out the ciphertext of an encryption, or none. -/
theorem handedOut?_of_not_encrypted (kept : ¬ (take device c action).Encrypted) :
    (take device c action).handedOut? = none := by
  cases action with
  | encrypt =>
    rcases outcome : (encryptPassword device).on c with ⟨e | ciphertext, c'⟩
    · simp only [CustodyStep.handedOut?, take, outcome, Except.map]
    · have done : (take device c .encrypt).result = .ok (some ciphertext) := by
        simp only [take, outcome, Except.map]
      exact absurd ⟨rfl, ciphertext, done⟩ kept
  | decrypt ciphertext =>
    rcases outcome : (decryptPassword device ciphertext).on c with ⟨e | done, c'⟩
    · simp only [CustodyStep.handedOut?, take, outcome, Except.map]
    · simp only [CustodyStep.handedOut?, take, outcome, Except.map]
  | write sink =>
    cases outcome : (c.profile.write sink).result with
    | error e => simp only [CustodyStep.handedOut?, take, outcome, Except.map]
    | ok done => simp only [CustodyStep.handedOut?, take, outcome, Except.map]

/-- An encryption that succeeds hands out the ciphertext of the password, and leaves the key text
that belongs to it. -/
theorem take_of_encrypted (done : (take device c action).Encrypted) :
    ∃ key s text s', device.encrypt (Utf8.ofString c.profile.password) key s = (.ok text, s') ∧
      (take device c action).handedOut? = some text.ciphertext ∧
      (take device c action).after.profile =
        { c.profile with password := "", encryptionKey := keyText key text.iv } := by
  have asked : (take device c action).action = action := take_action
  obtain rfl : action = .encrypt := asked.symm.trans done.1
  have outcome := encryptPassword_cases device c
  unfold CustodyStep.Encrypted CustodyStep.handedOut? at *
  unfold take at *
  generalize (encryptPassword device).on c = r at outcome done ⊢
  cases outcome with
  | noKey generated =>
    obtain ⟨-, ciphertext, ⟨⟩⟩ := done
  | notEncrypted generated refused =>
    obtain ⟨-, ciphertext, ⟨⟩⟩ := done
  | exchanged generated encrypted => exact ⟨_, _, _, _, encrypted, rfl, rfl⟩

variable {password : String} {latest : Option String}

/-- Under its key text a ciphertext gives the password. -/
theorem decrypt_of_opens {key : Bytes} {text : EncryptedText}
    (keyed : c.profile.encryptionKey = keyText key text.iv) (free : keySeparator ∉ text.iv.toList)
    (opens : ∀ s, (device.decrypt text.ciphertext key text.iv s).1 =
      .ok (Utf8.ofString password)) :
    ∃ s, (decryptPassword device text.ciphertext).on c =
      (.ok (), ⟨{ c.profile with password := password, encryptionKey := "" }, s⟩) :=
  ⟨_, decryptPassword_of_decrypted free keyed (Prod.ext (opens c.device) rfl)⟩

theorem Held.recoverable (held : Held device password latest c) {ciphertexts : List String}
    (kept : ∀ ciphertext, latest = some ciphertext → ciphertext ∈ ciphertexts) :
    Recoverable device password ciphertexts c := by
  cases held with
  | plain noKey inside => exact .inl inside
  | sealed empty keyed free opens =>
    obtain ⟨s, decrypted⟩ := decrypt_of_opens keyed free opens
    exact .inr ⟨_, kept _ rfl, _, decrypted, rfl⟩

/-- An encryption of an orderly history finds the password in the profile. -/
theorem Held.password_eq (held : Held device password latest c)
    (allowed : c.profile.encryptionKey = "" ∨ password = "") : c.profile.password = password := by
  cases held with
  | plain noKey inside => exact inside
  | sealed empty keyed free opens =>
    rcases allowed with noKey | none
    · exact absurd (keyed.symm.trans noKey) (keyText_ne_empty _ _)
    · rw [empty, none]

/-- What is held depends on the profile alone. -/
theorem Held.of_profile_eq {c' : Custody σ} (held : Held device password latest c)
    (same : c'.profile = c.profile) : Held device password latest c' := by
  cases held with
  | plain noKey inside => exact .plain (same ▸ noKey) (same ▸ inside)
  | sealed empty keyed free opens => exact .sealed (same ▸ empty) (same ▸ keyed) free opens

/-- A step of an orderly history keeps what is held. -/
theorem Held.take (inverts : device.Inverts) (separatorFree : device.SeparatorFree)
    (held : Held device password latest c)
    (encryptions : (take device c action).Encrypted →
      c.profile.encryptionKey = "" ∨ password = "")
    (decryptions : (take device c action).Decrypted →
      ∃ ciphertext, action = .decrypt ciphertext ∧ latest = some ciphertext) :
    Held device password ((take device c action).handedOut?.or latest)
      (take device c action).after := by
  cases effect_take device c action with
  | kept notEncrypted notDecrypted left =>
    rw [handedOut?_of_not_encrypted notEncrypted, Option.none_or]
    exact held.of_profile_eq (left.trans (congrArg Custody.profile take_before))
  | encrypted done made left =>
    obtain ⟨key, s, text, s', made, handedOut, left⟩ := take_of_encrypted done
    rw [held.password_eq (encryptions done)] at made
    rw [handedOut, Option.some_or]
    exact .sealed (by rw [left]) (by rw [left]) (separatorFree _ _ _ _ _ made)
      (inverts _ _ _ _ _ made)
  | decrypted done left =>
    have notEncrypted : ¬ (Custody.take device c action).Encrypted :=
      fun encrypted => encrypted.not_decrypted done
    obtain ⟨ciphertext, rfl, rfl⟩ := decryptions done
    rw [handedOut?_of_not_encrypted notEncrypted, Option.none_or]
    cases held with
    | plain noKey inside =>
      -- without a key text no decryption succeeds
      have refused : (decryptPassword device ciphertext).on c = (.error .invalidKeyFormat, c) :=
        decryptPassword_of_empty_key noKey ciphertext
      have failed : (Custody.take device c (.decrypt ciphertext)).result =
          .error .invalidKeyFormat := by
        simp only [Custody.take, refused, Except.map]
      exact absurd done (CustodyStep.not_decrypted_of_error failed)
    | @sealed _ key text empty keyed free opens =>
      obtain ⟨s, decrypted⟩ := decrypt_of_opens keyed free opens
      have after : (Custody.take device c (.decrypt text.ciphertext)).after =
          ⟨{ c.profile with password := password, encryptionKey := "" }, s⟩ := by
        simp only [Custody.take, decrypted]
      rw [after]
      exact .plain rfl rfl

end Steps

/-! ## Orderly histories -/

section Histories

variable {device : CipherDevice σ} {password : String}

/-- What is held at first is held wherever an orderly history leads, and the latest ciphertext was
handed out on the way or before. -/
theorem Held.history (inverts : device.Inverts) (separatorFree : device.SeparatorFree)
    {actions : List CustodyAction} {c : Custody σ} {latest : Option String}
    (held : Held device password latest c)
    (orderly : Orderly password latest (Custody.history device c actions))
    {early rest : List (CustodyStep σ)}
    (split : Custody.history device c actions = early ++ rest) :
    ∃ latest', Held device password latest' (reached c early) ∧
      ∀ ciphertext, latest' = some ciphertext →
        latest = some ciphertext ∨ ciphertext ∈ early.filterMap (·.handedOut?) := by
  induction actions generalizing c latest early with
  | nil =>
    obtain ⟨rfl, -⟩ := List.append_eq_nil_iff.1 split.symm
    exact ⟨latest, held, fun ciphertext same => .inl same⟩
  | cons action actions ih =>
    cases early with
    | nil => exact ⟨latest, held, fun ciphertext same => .inl same⟩
    | cons t early =>
      obtain ⟨rfl, onward⟩ := List.cons.inj split
      obtain ⟨encryptions, decryptions, orderly⟩ := orderly
      rw [take_before] at encryptions
      rw [take_action] at decryptions
      have next := held.take inverts separatorFree encryptions decryptions
      obtain ⟨latest', held', handedOut⟩ := ih next orderly onward
      refine ⟨latest', held', fun ciphertext same => ?_⟩
      rcases handedOut ciphertext same with before | later
      · rcases Option.or_eq_some_iff.1 before with now | ⟨-, earlier⟩
        · exact .inr (List.mem_filterMap.2 ⟨_, List.mem_cons_self, now⟩)
        · exact .inl earlier
      · obtain ⟨u, inside, handed⟩ := List.mem_filterMap.1 later
        exact .inr (List.mem_filterMap.2 ⟨u, List.mem_cons_of_mem _ inside, handed⟩)

/-- **The password stays recoverable.** Let a device decrypt what it encrypted, and hand out initial
vectors without the separator. A profile without key text is encrypted, decrypted and written in any
order, and any of that may fail. If no encryption succeeds on a profile that holds a key text,
unless the password is empty, and no decryption succeeds with another ciphertext than the latest,
then everywhere on the way the profile has the password, or decrypting some ciphertext handed out
before succeeds and puts it back. -/
theorem password_recoverable (inverts : device.Inverts) (separatorFree : device.SeparatorFree)
    (start : Custody σ) (noKey : start.profile.encryptionKey = "") (actions : List CustodyAction)
    (orderly : Orderly start.profile.password none (history device start actions))
    (early rest : List (CustodyStep σ)) (split : history device start actions = early ++ rest) :
    Recoverable device start.profile.password (early.filterMap (·.handedOut?))
      (reached start early) := by
  have held : Held device start.profile.password none start := .plain noKey rfl
  obtain ⟨latest, held, handedOut⟩ := held.history inverts separatorFree orderly split
  refine held.recoverable fun ciphertext same => ?_
  rcases handedOut ciphertext same with before | inside
  · cases before
  · exact inside

end Histories

/-- A device that masks every byte with its key, which is the number of the next key. It tells no
ciphertext from another. -/
def masking : CipherDevice Nat where
  generateKey := fun n => (.ok [n.toUInt8], n + 1)
  encrypt := fun plain key n =>
    (.ok ⟨"iv", String.ofList (plain.map fun b => Char.ofUInt8 (b ^^^ key.headD 0))⟩, n)
  decrypt := fun ciphertext key _ n =>
    (.ok (ciphertext.toList.map fun letter => letter.toUInt8 ^^^ key.headD 0), n)

theorem inverts_masking : masking.Inverts := by
  intro plain key s s' text encrypted later
  cases encrypted
  have back (b : UInt8) :
      (Char.ofUInt8 (b ^^^ key.headD 0)).toUInt8 ^^^ key.headD 0 = b := by
    show (b ^^^ key.headD 0).toUInt32.toUInt8 ^^^ key.headD 0 = b
    rw [UInt8.toUInt8_toUInt32, UInt8.xor_assoc, UInt8.xor_self, UInt8.xor_zero]
  simp only [masking, String.toList_ofList, List.map_map, Function.comp_def, back, List.map_id']

theorem separatorFree_masking : masking.SeparatorFree := by
  intro plain key s s' text encrypted
  cases encrypted
  show keySeparator ∉ "iv".toList
  decide

/-- A history with a decryption that fails, and two encryptions with a decryption between them. -/
theorem password_recoverable_masked :
    let start : Custody Nat := ⟨{ password := "pw" }, 1⟩
    let steps := history masking start [.decrypt "st", .encrypt, .decrypt "qv", .encrypt]
    steps.filterMap (·.handedOut?) = ["qv", "ru"] ∧
      (reached start steps).profile.password = "" ∧
      Recoverable masking "pw" ["qv", "ru"] (reached start steps) := by
  intro start steps
  have handedOut : steps.filterMap (·.handedOut?) = ["qv", "ru"] := by decide +kernel
  have orderly : Orderly "pw" none steps := by
    refine ⟨fun _ => .inl rfl, ?_, fun _ => .inl rfl, ?_, ?_, fun _ => ⟨_, rfl, ?_⟩,
      fun _ => .inl (by decide +kernel), ?_, trivial⟩
    · rintro ⟨-, ⟨⟩⟩
    · rintro ⟨⟨_, ⟨⟩⟩, -⟩
    · rintro ⟨⟨⟩, -⟩
    · decide +kernel
    · rintro ⟨⟨_, ⟨⟩⟩, -⟩
  refine ⟨handedOut, by decide +kernel, ?_⟩
  rw [← handedOut]
  exact password_recoverable inverts_masking separatorFree_masking start rfl _ orderly steps []
    (List.append_nil steps).symm

/-- A second encryption, and a decryption with an older ciphertext, each lose the password. -/
theorem password_not_recoverable :
    let start : Custody Nat := ⟨{ password := "pw" }, 1⟩
    let twice := history masking start [.encrypt, .encrypt]
    let older := history masking start [.encrypt, .decrypt "qv", .encrypt, .decrypt "qv"]
    masking.Inverts ∧ masking.SeparatorFree ∧
      (twice.filterMap (·.handedOut?) = ["qv", ""] ∧
        ¬ Recoverable masking "pw" ["qv", ""] (reached start twice)) ∧
      older.filterMap (·.handedOut?) = ["qv", "ru"] ∧
        ¬ Recoverable masking "pw" ["qv", "ru"] (reached start older) :=
  ⟨inverts_masking, separatorFree_masking, ⟨by decide +kernel, by decide +kernel⟩,
    by decide +kernel, by decide +kernel⟩

end Custody

end SessionHandoff
