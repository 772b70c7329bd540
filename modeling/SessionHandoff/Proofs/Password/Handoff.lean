import SessionHandoff.Proofs.Password.Exchange
import SessionHandoff.Proofs.Profile.Transfer
import SessionHandoff.Proofs.Storage.Secret

/-!
# The whole way of a password

The password leaves its profile, the profile goes over a channel, the ciphertext goes through a
file, and the reader of both puts the password back. Nothing on the way can fail while the random
bytes last, the channel has room and the file is new and may be read; and what comes out is the
profile that went in, without its key text and with its limits as a reader sees them
(`password_survives_handoff`).
-/

set_option autoImplicit false

namespace SessionHandoff

/-- What the receiver of a profile ends with: no key text, and the limits as a reader sees them. -/
def LaunchProfile.received (p : LaunchProfile) : LaunchProfile :=
  { p with
    encryptionKey := ""
    config := { p.config with limits := p.config.limits.wireNormalized } }

/-- What is read back of a new secret file is the ciphertext that was written. -/
theorem readSecret_encode {tree tree' : FileTree} {path : String} {mode : UInt32} {place : Place}
    (h : tree.createNew path mode = .ok (place, tree')) (sealedBytes : Bytes) {secret : String}
    (hread : readSecret (writeSecret tree path (Base64.encode sealedBytes) mode).1 path =
      .ok secret) : secret = Base64.encode sealedBytes := by
  rw [(readSecret_of_writeSecret h _).2, Base64.trimString_encode] at hread
  split at hread
  · cases hread
  · cases hread
    rfl

/-- **A password is handed over.** Let the random bytes begin with a key and a nonce.

* Encryption succeeds and uses just these, and every sink with room takes the profile it leaves.
* Whatever sink took the profile, reading what arrived succeeds under both policies and without a
  record.
* Where a new file can be made the ciphertext is written, and it is read if the permissions that
  were granted let the owner read.
* Whatever was read of it, decryption succeeds and leaves the profile that was encrypted, the
  password included, without key text and with its limits as a reader sees them. -/
theorem password_survives_handoff (p : LaunchProfile) (key nonce : Bytes)
    (hkey : key.length = Aes.keyLength) (hnonce : nonce.length = Gcm.nonceLength) (rest : Entropy)
    (policy : DecodePolicy) :
    ∃ ciphertext outgoing,
      (encryptPassword CipherDevice.aesGcm).on ⟨p, key ++ (nonce ++ rest)⟩ =
        (.ok ciphertext, ⟨outgoing, rest⟩) ∧
      (∀ sink : ByteSink, sink.HasRoom outgoing.toBytes.length →
        (outgoing.write sink).result = .ok ()) ∧
      ∀ (sink : ByteSink) (source : ByteSource), (outgoing.write sink).result = .ok () →
        source.readToEnd = .ok (outgoing.write sink).arrived →
        ∃ incoming, readProfile policy source = ⟨.ok incoming, []⟩ ∧
          ∀ (tree : FileTree) (path : String) (mode : UInt32) (made : Place × FileTree),
            tree.createNew path mode = .ok made →
            (writeSecret tree path ciphertext mode).2 = .ok () ∧
            (tree.granted mode &&& readMask ≠ 0 →
              ∃ secret, readSecret (writeSecret tree path ciphertext mode).1 path = .ok secret) ∧
            ∀ (secret : String) (supply : Entropy),
              readSecret (writeSecret tree path ciphertext mode).1 path = .ok secret →
              (decryptPassword CipherDevice.aesGcm secret).on ⟨incoming, supply⟩ =
                (.ok (), ⟨p.received, supply⟩) := by
  refine ⟨_, _, encryptPassword_of_random p hkey hnonce rest,
    fun sink hroom => LaunchProfile.write_of_room rfl hroom, fun sink source hwrite hsource => ?_⟩
  refine ⟨_, LaunchProfile.readProfile_of_arrived rfl hwrite hsource policy,
    fun tree path mode made hmade => ?_⟩
  obtain ⟨hok, hread⟩ := readSecret_of_writeSecret hmade
    (Base64.encode (Aes.encipher key nonce (Utf8.ofString p.password)))
  refine ⟨hok, fun hmode => ⟨_, hread.trans (if_neg hmode)⟩, fun secret supply hsecret => ?_⟩
  rw [readSecret_encode hmade _ hsecret]
  -- Nothing on the wire touches the key text, so it is the one that encryption left.
  exact decryptPassword_keyText hkey hnonce rfl p.password supply

/-- One run of the whole way: a profile with a password of two lines, a key of one byte repeated, a
channel that takes seven bytes at a time, and a file that only its owner may read. -/
theorem password_survives_handoff_two_lines :
    let p : LaunchProfile :=
      { context := { username := "ada" }, password := "pa\"ss\nwörd", encryptionKey := "old",
        executable := "/bin/true",
        config := { limits := { memoryBytes := some 9007199254740992, nice := some 5 } } }
    let sink : ByteSink := { portion := fun _ => some 7 }
    let tree : FileTree := ⟨[(["tmp"], .folder)], [], 0o022⟩
    ∃ ciphertext outgoing incoming secret,
      (encryptPassword CipherDevice.aesGcm).on
          ⟨p, List.replicate 32 200 ++ (List.replicate 12 3 ++ [])⟩ =
        (.ok ciphertext, ⟨outgoing, []⟩) ∧
      (outgoing.write sink).result = .ok () ∧
      readProfile .strict (.ofBytes (outgoing.write sink).arrived) = ⟨.ok incoming, []⟩ ∧
      (writeSecret tree "/tmp/secret" ciphertext 0o600).2 = .ok () ∧
      readSecret (writeSecret tree "/tmp/secret" ciphertext 0o600).1 "/tmp/secret" = .ok secret ∧
      (decryptPassword CipherDevice.aesGcm secret).on ⟨incoming, []⟩ =
        (.ok (), ⟨p.received, []⟩) := by
  intro p sink tree
  obtain ⟨ciphertext, outgoing, hencrypt, hroom, hrest⟩ :=
    password_survives_handoff p (List.replicate 32 200) (List.replicate 12 3) rfl rfl [] .strict
  have hwrite := hroom sink (ByteSink.hasRoom_of_unbounded rfl rfl _)
  obtain ⟨incoming, hread, hfile⟩ := hrest sink (.ofBytes (outgoing.write sink).arrived) hwrite
    (by simp [ByteSource.ofBytes, ByteSource.readToEnd])
  have hmade : tree.createNew "/tmp/secret" 0o600 = .ok
      (["tmp", "secret"], tree.put ["tmp", "secret"] (.file [] (tree.granted 0o600))) := rfl
  obtain ⟨hsecret, hreadable, hdecrypt⟩ := hfile tree "/tmp/secret" 0o600 _ hmade
  obtain ⟨secret, hgot⟩ := hreadable (by decide)
  exact ⟨ciphertext, outgoing, incoming, secret, hencrypt, hwrite, hread, hsecret, hgot,
    hdecrypt secret [] hgot⟩

end SessionHandoff
