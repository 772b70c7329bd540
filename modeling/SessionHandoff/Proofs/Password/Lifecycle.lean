import SessionHandoff.Proofs.Password.Exchange
import SessionHandoff.Proofs.Profile.Interruption

/-!
# The life of a password in custody

A profile in keeping is encrypted, decrypted and written any number of times and in any order, and
each time the device or the channel may fail. The history of a custody lists these steps with what
each of them found, left behind and put on a channel.

A step leaves the profile as it was, unless it is an exchange that succeeded (`Custody.effect_take`).
So what an exchange establishes holds until the opposite exchange succeeds (`Custody.history_until`):
behind an encryption the profile is sealed, behind a decryption there is nothing to decrypt. No step
ever puts a password on a channel. `Custody.password_lifecycle` says all this of every history.
-/

set_option autoImplicit false

namespace SessionHandoff

/-! ## Histories -/

/-- What is done with a profile in keeping. -/
inductive CustodyAction where
  | encrypt
  | decrypt (ciphertext : String)
  | write (sink : ByteSink)

/-- A step of a history. -/
structure CustodyStep (σ : Type) where
  action : CustodyAction
  before : Custody σ
  after : Custody σ
  /-- How it went, with the ciphertext if one was handed out. -/
  result : Except LaunchError (Option String)
  /-- The bytes that were put on a channel. -/
  emitted : Bytes

namespace CustodyStep

variable {σ : Type}

/-- The step exchanged the password for a key text. -/
def Encrypted (t : CustodyStep σ) : Prop :=
  t.action = .encrypt ∧ ∃ ciphertext, t.result = .ok (some ciphertext)

/-- The step exchanged the key text for a password. -/
def Decrypted (t : CustodyStep σ) : Prop :=
  (∃ ciphertext, t.action = .decrypt ciphertext) ∧ t.result = .ok none

/-- What a step can do to the profile. -/
inductive Effect (device : CipherDevice σ) (t : CustodyStep σ) : Prop where
  | kept (notEncrypted : ¬ t.Encrypted) (notDecrypted : ¬ t.Decrypted)
      (left : t.after.profile = t.before.profile)
  | encrypted (done : t.Encrypted) {key : Bytes} {s s' : σ} {text : EncryptedText}
      (made : device.encrypt (Utf8.ofString t.before.profile.password) key s = (.ok text, s'))
      (left : t.after.profile =
        { t.before.profile with password := "", encryptionKey := keyText key text.iv })
  | decrypted (done : t.Decrypted) {password : String}
      (left : t.after.profile =
        { t.before.profile with password := password, encryptionKey := "" })

variable {t : CustodyStep σ} {e : LaunchError}

theorem not_encrypted_of_error (failed : t.result = .error e) : ¬ t.Encrypted := by
  rintro ⟨-, ciphertext, succeeded⟩
  rw [failed] at succeeded
  cases succeeded

theorem not_decrypted_of_error (failed : t.result = .error e) : ¬ t.Decrypted := by
  rintro ⟨-, succeeded⟩
  rw [failed] at succeeded
  cases succeeded

/-- A step that fails and keeps the profile. -/
theorem Effect.of_error {device : CipherDevice σ} (failed : t.result = .error e)
    (left : t.after.profile = t.before.profile) : t.Effect device :=
  .kept (not_encrypted_of_error failed) (not_decrypted_of_error failed) left

theorem Encrypted.not_decrypted (encrypted : t.Encrypted) : ¬ t.Decrypted := by
  rintro ⟨⟨ciphertext, action⟩, -⟩
  rw [encrypted.1] at action
  cases action

end CustodyStep

/-- A profile without password, with a key text that has two parts. -/
structure LaunchProfile.Sealed (p : LaunchProfile) : Prop where
  password_empty : p.password = ""
  encrypted : p.isEncrypted = true
  one_separator : p.encryptionKey.toList.count keySeparator = 1

/-- No initial vector that the device hands out holds the separator of key texts. -/
def CipherDevice.SeparatorFree {σ : Type} (device : CipherDevice σ) : Prop :=
  ∀ (plain key : Bytes) (s s' : σ) (text : EncryptedText),
    device.encrypt plain key s = (.ok text, s') → keySeparator ∉ text.iv.toList

namespace Custody

variable {σ : Type}

/-- Take one step. -/
def take (device : CipherDevice σ) (c : Custody σ) : CustodyAction → CustodyStep σ
  | .encrypt =>
    let r := (encryptPassword device).on c
    ⟨.encrypt, c, r.2, r.1.map some, []⟩
  | .decrypt ciphertext =>
    let r := (decryptPassword device ciphertext).on c
    ⟨.decrypt ciphertext, c, r.2, r.1.map fun _ => none, []⟩
  | .write sink =>
    let d := c.profile.write sink
    ⟨.write sink, c, c, d.result.map fun _ => none, d.arrived⟩

/-- The steps that some actions come to, one after the other. -/
def history (device : CipherDevice σ) (c : Custody σ) : List CustodyAction → List (CustodyStep σ)
  | [] => []
  | action :: rest =>
    let taken := take device c action
    taken :: history device taken.after rest

/-! ## One step -/

section Steps

variable {device : CipherDevice σ} {c : Custody σ} {action : CustodyAction}

@[simp] theorem take_before : (take device c action).before = c := by
  cases action with
  | encrypt => rfl
  | decrypt ciphertext => rfl
  | write sink => rfl

@[simp] theorem take_action : (take device c action).action = action := by
  cases action with
  | encrypt => rfl
  | decrypt ciphertext => rfl
  | write sink => rfl

/-- A step keeps the profile, or it is one of the two exchanges. -/
theorem effect_take (device : CipherDevice σ) (c : Custody σ) (action : CustodyAction) :
    (take device c action).Effect device := by
  cases action with
  | encrypt =>
    have outcome := encryptPassword_cases device c
    unfold take
    dsimp only
    generalize (encryptPassword device).on c = r at outcome ⊢
    cases outcome with
    | noKey generated => exact .of_error rfl rfl
    | notEncrypted generated refused => exact .of_error rfl rfl
    | exchanged generated encrypted => exact .encrypted ⟨rfl, _, rfl⟩ encrypted rfl
  | decrypt ciphertext =>
    have outcome := decryptPassword_cases device ciphertext c
    unfold take
    dsimp only
    generalize (decryptPassword device ciphertext).on c = r at outcome ⊢
    cases outcome with
    | noParts split => exact .of_error rfl rfl
    | notBase64 split decoded => exact .of_error rfl rfl
    | notDecrypted split decoded refused => exact .of_error rfl rfl
    | notText split decoded decrypted text => exact .of_error rfl rfl
    | exchanged split decoded decrypted text => exact .decrypted ⟨⟨_, rfl⟩, rfl⟩ rfl
  | write sink =>
    -- a write is no exchange, whether it succeeds or not
    refine .kept ?_ ?_ rfl
    · rintro ⟨⟨⟩, -⟩
    · rintro ⟨⟨_, ⟨⟩⟩, -⟩

/-- Only a write puts bytes on a channel, and it finds no password in the profile. -/
theorem write_of_emitted (emitted : (take device c action).emitted ≠ []) :
    ∃ sink, action = .write sink ∧ c.profile.password = "" := by
  cases action with
  | encrypt => exact absurd rfl emitted
  | decrypt ciphertext => exact absurd rfl emitted
  | write sink =>
    refine ⟨sink, rfl, Classical.byContradiction fun carried => emitted ?_⟩
    show (c.profile.write sink).arrived = []
    rw [LaunchProfile.write_of_password_ne_empty carried]

/-- A reader of what a step put on a channel sees no password. -/
theorem password_of_emitted (emitted : (take device c action).emitted ≠ [])
    {policy : DecodePolicy} {q : LaunchProfile} {log : List LogRecord}
    (read : LaunchProfile.ofBytes policy (take device c action).emitted = ⟨.ok q, log⟩) :
    q.password = "" := by
  obtain ⟨sink, rfl, empty⟩ := write_of_emitted emitted
  exact LaunchProfile.password_of_arrived empty read

/-- What a step put on a channel that succeeded in it is read. -/
theorem read_of_emitted (emitted : (take device c action).emitted ≠ [])
    (succeeded : (take device c action).result = .ok none) (policy : DecodePolicy) :
    LaunchProfile.ofBytes policy (take device c action).emitted =
      ⟨.ok c.profile.wireNormalized, []⟩ := by
  obtain ⟨sink, rfl, empty⟩ := write_of_emitted emitted
  obtain ⟨done, written, -⟩ := map_eq_ok.1 succeeded
  show LaunchProfile.ofBytes policy (c.profile.write sink).arrived = _
  rw [LaunchProfile.arrived_of_write empty written]
  exact LaunchProfile.ofBytes_toBytes policy c.profile

/-- The base64 text of the key holds no separator, so the one between the parts is the only one. -/
theorem sealed_keyText (p : LaunchProfile) (key : Bytes) {iv : String}
    (free : keySeparator ∉ iv.toList) :
    LaunchProfile.Sealed { p with password := "", encryptionKey := keyText key iv } := by
  have parts : (keyText key iv).toList =
      Base64.encodeChars key ++ keySeparator :: iv.toList := by
    simp only [keyText, Base64.encode, String.toList_ofList]
  have one : (keyText key iv).toList.count keySeparator = 1 := by
    have noneBefore : (Base64.encodeChars key).count keySeparator = 0 :=
      List.count_eq_zero_of_not_mem (Base64.bar_not_mem_encodeChars key)
    rw [parts, List.count_append, List.count_cons_self, noneBefore,
      List.count_eq_zero_of_not_mem free]
  refine ⟨rfl, ?_, one⟩
  have filled : keyText key iv ≠ "" := by
    intro empty
    rw [empty] at one
    cases one
  simpa [LaunchProfile.isEncrypted] using filled

theorem sealed_of_encrypted (free : device.SeparatorFree)
    (encrypted : (take device c action).Encrypted) :
    (take device c action).after.profile.Sealed := by
  cases effect_take device c action with
  | kept not _ _ => exact absurd encrypted not
  | encrypted _ made left =>
    rw [left]
    exact sealed_keyText _ _ (free _ _ _ _ _ made)
  | decrypted decrypted _ => exact absurd decrypted encrypted.not_decrypted

theorem sealed_of_not_decrypted (free : device.SeparatorFree) (held : c.profile.Sealed)
    (kept : ¬ (take device c action).Decrypted) : (take device c action).after.profile.Sealed := by
  cases effect_take device c action with
  | kept _ _ left =>
    rw [left, take_before]
    exact held
  | encrypted encrypted _ _ => exact sealed_of_encrypted free encrypted
  | decrypted decrypted _ => exact absurd decrypted kept

theorem encryptionKey_of_decrypted (decrypted : (take device c action).Decrypted) :
    (take device c action).after.profile.encryptionKey = "" := by
  cases effect_take device c action with
  | kept _ not _ => exact absurd decrypted not
  | encrypted encrypted _ _ => exact absurd decrypted encrypted.not_decrypted
  | decrypted _ left => rw [left]

theorem encryptionKey_of_not_encrypted (held : c.profile.encryptionKey = "")
    (kept : ¬ (take device c action).Encrypted) :
    (take device c action).after.profile.encryptionKey = "" := by
  cases effect_take device c action with
  | kept _ _ left =>
    rw [left, take_before]
    exact held
  | encrypted encrypted _ _ => exact absurd encrypted kept
  | decrypted decrypted _ => exact encryptionKey_of_decrypted decrypted

/-- Without a key text there is nothing to decrypt, whatever the ciphertext is, and the device is
not called. -/
theorem decryptPassword_of_empty_key (empty : c.profile.encryptionKey = "") (ciphertext : String) :
    (decryptPassword device ciphertext).on c = (.error .invalidKeyFormat, c) := by
  have split : keyParts? c.profile.encryptionKey = none := by
    rw [empty]
    rfl
  rw [decryptPassword, on_getProfile_bind, split]
  rfl

end Steps

/-! ## Whole histories -/

section Histories

variable {device : CipherDevice σ} {c : Custody σ} {actions : List CustodyAction}

/-- A step of a history is taken where it was found, and the history goes on where it left. -/
theorem history_split {early rest : List (CustodyStep σ)} {t : CustodyStep σ}
    (split : history device c actions = early ++ t :: rest) :
    t = take device t.before t.action ∧ ∃ later, rest = history device t.after later := by
  induction early generalizing c actions with
  | nil =>
    cases actions with
    | nil => cases split
    | cons action later =>
      cases split
      rw [take_before, take_action]
      exact ⟨rfl, later, rfl⟩
  | cons first early ih =>
    cases actions with
    | nil => cases split
    | cons action later => exact ih (List.cons.inj split).2

theorem exists_take_of_mem {t : CustodyStep σ} (inside : t ∈ history device c actions) :
    ∃ found action, t = take device found action := by
  obtain ⟨early, rest, split⟩ := List.append_of_mem inside
  exact ⟨_, _, (history_split split).1⟩

/-- What holds at first, and every step keeps that does not end it, holds up to the first that
does. -/
theorem history_keeps {P : Custody σ → Prop} {Ends : CustodyStep σ → Prop}
    (keeps : ∀ c action, P c → ¬ Ends (take device c action) → P (take device c action).after)
    {middle rest : List (CustodyStep σ)} (split : history device c actions = middle ++ rest)
    (holds : P c) (going : ∀ u ∈ middle, ¬ Ends u) : ∀ u ∈ middle, P u.after := by
  induction middle generalizing c actions with
  | nil =>
    intro u inside
    exact absurd inside List.not_mem_nil
  | cons next middle ih =>
    cases actions with
    | nil => cases split
    | cons action later =>
      obtain ⟨rfl, onward⟩ := List.cons.inj split
      have reached := keeps c action holds (going _ List.mem_cons_self)
      intro u inside
      rcases List.mem_cons.1 inside with rfl | behind
      · exact reached
      · exact ih onward reached (fun v hv => going v (List.mem_cons_of_mem _ hv)) u behind

/-- What one kind of step establishes, and every step keeps but those of another kind, holds from
the one to the other. -/
theorem history_until {P : Custody σ → Prop} {Begins Ends : CustodyStep σ → Prop}
    (begins : ∀ c action, Begins (take device c action) → P (take device c action).after)
    (keeps : ∀ c action, P c → ¬ Ends (take device c action) → P (take device c action).after)
    {early middle rest : List (CustodyStep σ)} {t : CustodyStep σ}
    (split : history device c actions = early ++ t :: (middle ++ rest)) (begun : Begins t)
    (going : ∀ u ∈ middle, ¬ Ends u) : ∀ u ∈ t :: middle, P u.after := by
  obtain ⟨taken, later, onward⟩ := history_split split
  have holds : P t.after := by
    rw [taken] at begun ⊢
    exact begins _ _ begun
  intro u inside
  rcases List.mem_cons.1 inside with rfl | behind
  · exact holds
  · exact history_keeps keeps onward.symm holds going u behind

end Histories

/-! ## Watched devices -/

theorem separatorFree_watched {device : CipherDevice σ} (free : device.SeparatorFree) :
    device.watched.SeparatorFree := by
  intro plain key w w' text made
  have inner : (device.encrypt plain key w.inner).1 = .ok text := congrArg Prod.fst made
  exact free plain key w.inner _ text (Prod.ext inner rfl)

/-- **The life of a password.** Let a device hand out initial vectors without the separator, and be
free in everything else. In every history of a profile in keeping:

* Only writes put bytes on a channel, and only where the profile has no password. Whoever reads
  these bytes, under either policy, sees no password; and if the write succeeded, they are read.
* From an encryption that succeeds until the next decryption that does, the password is empty and
  there is a key text, with one separator.
* From a decryption that succeeds until the next encryption that does, there is no key text, and
  decrypting anything is refused, with the profile unchanged and no call made to the device. -/
theorem password_lifecycle {device : CipherDevice σ} (free : device.SeparatorFree)
    (start : Custody (Watched σ)) (actions : List CustodyAction) :
    (∀ t ∈ history device.watched start actions, t.emitted ≠ [] →
      (∃ sink, t.action = .write sink) ∧ t.before.profile.password = "" ∧
      ∀ policy : DecodePolicy,
        (∀ q log, LaunchProfile.ofBytes policy t.emitted = ⟨.ok q, log⟩ → q.password = "") ∧
        (t.result = .ok none →
          ∃ q, LaunchProfile.ofBytes policy t.emitted = ⟨.ok q, []⟩ ∧ q.password = "")) ∧
    (∀ early t middle rest,
      history device.watched start actions = early ++ t :: (middle ++ rest) →
      t.Encrypted → (∀ u ∈ middle, ¬ u.Decrypted) → ∀ u ∈ t :: middle, u.after.profile.Sealed) ∧
    ∀ early t middle rest,
      history device.watched start actions = early ++ t :: (middle ++ rest) →
      t.Decrypted → (∀ u ∈ middle, ¬ u.Encrypted) → ∀ u ∈ t :: middle,
        u.after.profile.encryptionKey = "" ∧
        ∀ ciphertext, (decryptPassword device.watched ciphertext).on u.after =
          (.error .invalidKeyFormat, u.after) := by
  have watched := separatorFree_watched free
  refine ⟨?_, ?_, ?_⟩
  · intro t inside emitted
    obtain ⟨found, action, rfl⟩ := exists_take_of_mem inside
    obtain ⟨sink, written, empty⟩ := write_of_emitted emitted
    rw [take_action, take_before]
    refine ⟨⟨sink, written⟩, empty, fun policy => ⟨?_, ?_⟩⟩
    · intro q log read
      exact password_of_emitted emitted read
    · intro succeeded
      exact ⟨_, read_of_emitted emitted succeeded policy, empty⟩
  · intro early t middle rest split encrypted going
    exact history_until (P := fun c => c.profile.Sealed)
      (fun c action => sealed_of_encrypted watched)
      (fun c action => sealed_of_not_decrypted watched) split encrypted going
  · intro early t middle rest split decrypted going u inside
    have empty : u.after.profile.encryptionKey = "" :=
      history_until (P := fun c => c.profile.encryptionKey = "")
        (fun c action => encryptionKey_of_decrypted)
        (fun c action => encryptionKey_of_not_encrypted) split decrypted going u inside
    exact ⟨empty, decryptPassword_of_empty_key empty⟩

/-- A device that refuses the first key, a profile with a key text of three parts, and the two
exchanges between three writes, the second of which breaks off. -/
theorem password_lifecycle_refused_key :
    let device : CipherDevice Nat :=
      { generateKey := fun n => (if n = 0 then .error .randomSource else .ok [7], n + 1)
        encrypt := fun _ _ n => (.ok ⟨"iv", "sealed"⟩, n)
        decrypt := fun _ _ _ n => (.ok [0x70, 0x77], n) }
    let start : Custody (Watched Nat) := ⟨{ password := "pw", encryptionKey := "a|b|c" }, ⟨0, []⟩⟩
    ∃ refusedKey refused encrypted broken decrypted refused' : CustodyStep (Watched Nat),
      history device.watched start
          [.encrypt, .write {}, .encrypt, .write { capacity := some 9 }, .decrypt "sealed",
            .write {}] =
        [refusedKey, refused, encrypted, broken, decrypted, refused'] ∧
      device.SeparatorFree ∧ refused.emitted = [] ∧ encrypted.Encrypted ∧
      broken.emitted.length = 9 ∧ broken.before.profile.password = "" ∧
      broken.after.profile.Sealed ∧ decrypted.Decrypted ∧
      decrypted.after.profile.password = "pw" ∧ refused'.emitted = [] ∧
      ∀ ciphertext, (decryptPassword device.watched ciphertext).on refused'.after =
        (.error .invalidKeyFormat, refused'.after) := by
  intro device start
  have free : device.SeparatorFree := by
    intro plain key s s' text made
    cases made
    decide
  obtain ⟨emitted, afterEncrypted, afterDecrypted⟩ := password_lifecycle free start
    [.encrypt, .write {}, .encrypt, .write { capacity := some 9 }, .decrypt "sealed", .write {}]
  refine ⟨_, _, _, _, _, _, rfl, free, by decide +kernel, ⟨rfl, "sealed", rfl⟩, by decide +kernel,
    ?_, ?_, ⟨⟨_, rfl⟩, eq_ok_of_toOption (by decide +kernel)⟩, by decide +kernel, by decide +kernel,
    ?_⟩
  · -- the write that broke off put something on its channel
    exact (emitted _ (by simp [history]) (by decide +kernel)).2.1
  · refine afterEncrypted [_, _] _ [_] [_, _] rfl ⟨rfl, "sealed", rfl⟩ ?_ _ (by simp)
    intro u inside decrypted
    rw [List.mem_singleton.1 inside] at decrypted
    obtain ⟨⟨_, ⟨⟩⟩, -⟩ := decrypted
  · refine (afterDecrypted [_, _, _, _] _ [_] [] rfl
      ⟨⟨_, rfl⟩, eq_ok_of_toOption (by decide +kernel)⟩ ?_ _ (by simp)).2
    intro u inside encrypted
    rw [List.mem_singleton.1 inside] at encrypted
    obtain ⟨⟨⟩, -⟩ := encrypted

end Custody

end SessionHandoff
