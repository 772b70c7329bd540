import SessionHandoff.Proofs.CommandLine.Steps
import SessionHandoff.Proofs.Storage.Secret
import SessionHandoff.Proofs.Text.Blank

/-!
# The two files of an exchange

`encrypt` stores a ciphertext and then a profile without its password, each at a path of its own. A
`Handoff` says how both were stored; every encryption into two files that succeeds leaves one
(`handoff_of_encrypt`). From it `decrypt` recovers the password if the two files are two and may be
read (`run_decrypt_of_handoff`), and otherwise it fails (`code_of_decrypt_lost`).
-/

set_option autoImplicit false

namespace SessionHandoff.CommandLine

open FileTree

/-! ## The two files -/

/-- The text of the password sealed under a key and a nonce. -/
def ciphertextOf (p : LaunchProfile) (key nonce : Bytes) : String :=
  Base64.encode (Aes.encipher key nonce (Utf8.ofString p.password))

/-- The profile with the key text of a key and a nonce in place of its password. -/
def exchangedOf (p : LaunchProfile) (key nonce : Bytes) : LaunchProfile :=
  { p with password := "", encryptionKey := keyText key (Base64.encode nonce) }

/-- How the ciphertext of a profile and then the profile without its password were stored at two
paths. -/
structure Handoff (before after : FileTree) (secretOut out : String) (p : LaunchProfile)
    (key nonce : Bytes) (mode : UInt32) where
  lengthKey : key.length = Aes.keyLength
  lengthNonce : nonce.length = Gcm.nonceLength
  between : FileTree
  secretPlace : Place
  outPlace : Place
  secretMode : UInt32
  outMode : UInt32
  namesSecret : before.Names secretOut secretPlace
  absent : before.get? secretPlace = none
  secretAccess : SameAccess (before.granted mode) secretMode
  storesSecret :
    Stores secretPlace (Utf8.ofString (ciphertextOf p key nonce)) secretMode before between
  namesOut : between.Names out outPlace
  outAccess : SameAccess (between.modeAt outPlace) outMode
  storesProfile : Stores outPlace (exchangedOf p key nonce).toBytes outMode between after

namespace Handoff

variable {before after : FileTree} {secretOut out : String} {p : LaunchProfile}
  {key nonce : Bytes} {mode : UInt32}
variable (h : Handoff before after secretOut out p key nonce mode)

include h

/-- The places are those that the paths lead to. -/
theorem secretPlace_eq {t : Target} (resolved : before.resolve secretOut = .ok t) :
    t.place = h.secretPlace :=
  h.namesSecret.place_eq resolved

theorem outPlace_eq {t : Target} (resolved : before.resolve out = .ok t) : t.place = h.outPlace :=
  h.namesOut.place_eq (h.storesSecret.samePaths.resolve.2 resolved)

theorem find_out : after.find out = .ok (.file (exchangedOf p key nonce).toBytes h.outMode) :=
  h.storesProfile.find h.namesOut

/-- In a place of its own the ciphertext is still there. -/
theorem find_secret (apart : h.secretPlace ≠ h.outPlace) :
    after.find secretOut =
      .ok (.file (Utf8.ofString (ciphertextOf p key nonce)) h.secretMode) := by
  refine (h.storesProfile.find_elsewhere fun t resolved => ?_).2
    (h.storesSecret.find h.namesSecret)
  rw [h.secretPlace_eq (h.storesSecret.samePaths.resolve.1 resolved)]
  exact apart

/-- Settings can be loaded as before, unless the ciphertext stands where they are looked for. -/
theorem load {policyValue : Option Bytes} {named : Option String} {settings : Settings}
    (loaded : Settings.load before policyValue named = .ok settings)
    (beside : ∀ t, before.resolve (Settings.source named) = .ok t → t.place ≠ h.secretPlace)
    (readable : h.outMode &&& readMask ≠ 0) :
    ∃ settings', Settings.load after policyValue named = .ok settings' :=
  Settings.load_over_profile h.storesProfile readable
    ((Settings.load_elsewhere h.storesSecret beside).2 loaded)

/-- A settings file that was loaded does not stand where the ciphertext was put. -/
theorem ne_secretPlace_of_load {policyValue : Option Bytes} {path : String} {settings : Settings}
    (loaded : Settings.load before policyValue (some path) = .ok settings) {t : Target}
    (resolved : before.resolve path = .ok t) : t.place ≠ h.secretPlace := by
  intro same
  obtain ⟨node, found, -⟩ := Settings.loadFile_eq_ok_iff.1 loaded
  have stands := stands_of_find resolved found
  rw [same, h.absent] at stands
  cases stands

/-- The owner may read the profile if he may read what stood there before, and a new file. -/
theorem readable_out (apart : h.secretPlace ≠ h.outPlace)
    (granted : before.granted mode &&& readMask ≠ 0)
    (readable : ∀ t content mode', before.resolve out = .ok t →
      before.get? t.place = some (.file content mode') → mode' &&& readMask ≠ 0) :
    h.outMode &&& readMask ≠ 0 := by
  obtain ⟨t, leads, same⟩ := h.namesOut.resolve
  have readable := readable t
  rw [h.storesSecret.samePaths.resolve.1 leads, same] at readable
  rw [h.outAccess.and_eq (by decide), h.storesSecret.modeAt, if_neg apart.symm, modeAt]
  split
  · rename_i content mode' found
    exact readable content mode' rfl found
  · exact granted_readable granted

end Handoff

/-! ## Encryption -/

/-- A stored profile is read as it was written, its limits as a reader sees them. -/
theorem readProfile_stored (policy : DecodePolicy) (p : LaunchProfile) (mode : UInt32) :
    (readProfile policy (sourceOf (.file p.toBytes mode))).result = .ok p.wireNormalized := by
  have whole : (sourceOf (.file p.toBytes mode)).readToEnd = .ok p.toBytes := by
    simp [sourceOf, Node.content, ByteSource.ofBytes, ByteSource.readToEnd]
  rw [readProfile, whole]
  dsimp only
  rw [LaunchProfile.ofBytes_toBytes]

section Encryption

variable {host host' : Host} {settings : Settings} {profile secretOut out : String}

/-- Encryption into two files that succeeds read a profile, drew a key and a nonce, and stored the
ciphertext and the profile. -/
theorem handoff_of_encrypt {finished : Finished} (ordinary : host.files.Ordinary out)
    (done : (encrypt settings profile secretOut (some out)).run host = (.ok finished, host')) :
    ∃ node p key nonce,
      host.files.openNode profile = .ok node ∧
      (readProfile settings.decodePolicy (sourceOf node)).result = .ok p ∧
      host.entropy = key ++ (nonce ++ host'.entropy) ∧ host'.policyValue = host.policyValue ∧
      Nonempty
        (Handoff host.files host'.files secretOut out p key nonce settings.secretFileMode) := by
  obtain ⟨p, ciphertext, outgoing, left, shared, opened, encrypted, written, stored, rfl⟩ :=
    run_encrypt_eq_ok.1 done
  obtain ⟨node, leads, read, -⟩ := run_openProfile_eq_ok.1 opened
  obtain ⟨key, nonce, hkey, hnonce, supply, rfl, rfl⟩ := encryptPassword_eq_ok_iff.1 encrypted
  obtain ⟨secretPlace, made, created⟩ := exists_createNew_of_writeSecret written
  obtain ⟨namesSecret, absent, -⟩ := names_of_createNew created
  obtain ⟨-, secretMode, secretAccess, storesSecret⟩ :=
    stores_of_writeSecret created (ciphertextOf p key nonce)
  obtain ⟨outPlace, emptied, opening, -, -, rfl⟩ := (run_storeProfile_eq_ok rfl).1 stored
  obtain ⟨namesOut, emptyMode, emptyAccess, empty⟩ :=
    stores_of_createOrEmpty (ordinary.of_stores storesSecret) opening
  obtain ⟨-, outMode, outAccess, storesProfile⟩ := empty.append (exchangedOf p key nonce).toBytes
  exact ⟨node, p, key, nonce, leads, read, supply, rfl,
    ⟨hkey, hnonce, _, secretPlace, outPlace, secretMode, outMode, namesSecret, absent, secretAccess,
      storesSecret, namesOut, outAccess.trans emptyAccess, storesProfile⟩⟩

/-- Encryption into two files succeeds where a profile is read, the random bytes last, nothing
stands where the ciphertext goes, and the profile goes to a file that may be written. -/
theorem exists_encrypt {node : Node} {p : LaunchProfile} {key nonce rest : Bytes}
    {secretPlace outPlace : Place} (opened : host.files.openNode profile = .ok node)
    (read : (readProfile settings.decodePolicy (sourceOf node)).result = .ok p)
    (lengthKey : key.length = Aes.keyLength) (lengthNonce : nonce.length = Gcm.nonceLength)
    (supply : host.entropy = key ++ (nonce ++ rest))
    (locatesSecret : host.files.Locates secretOut secretPlace)
    (absent : host.files.get? secretPlace = none) (namesOut : host.files.Names out outPlace)
    (plain : ∀ node, host.files.get? outPlace = some node → node.IsFile)
    (writable : (if outPlace = secretPlace then host.files.granted settings.secretFileMode
      else host.files.modeAt outPlace) &&& writeMask ≠ 0) :
    ∃ finished host', (encrypt settings profile secretOut (some out)).run host =
      (.ok finished, host') := by
  have created : host.files.createNew secretOut settings.secretFileMode = .ok (secretPlace, _) :=
    createNew_eq_ok_iff.2 ⟨locatesSecret, absent, rfl⟩
  obtain ⟨written, secretMode, secretAccess, storesSecret⟩ :=
    stores_of_writeSecret created (ciphertextOf p key nonce)
  have namesBetween := namesOut.of_samePaths storesSecret.samePaths
  have ordinary := (namesOut.ordinary plain).of_stores storesSecret
  have emptiable : (writeSecret host.files secretOut (ciphertextOf p key nonce)
      settings.secretFileMode).1.modeAt outPlace &&& writeMask ≠ 0 := by
    rw [storesSecret.modeAt]
    split
    · rename_i same
      rw [if_pos same] at writable
      rw [secretAccess.and_eq (by decide)]
      exact writable
    · rename_i apart
      rw [if_neg apart] at writable
      exact writable
  obtain ⟨emptied, opening⟩ := exists_createOrEmpty namesBetween ordinary emptiable
  obtain ⟨-, emptyMode, -, empty⟩ := stores_of_createOrEmpty ordinary opening
  have appended := (empty.append (exchangedOf p key nonce).toBytes).1
  have sendable : (exchangedOf p key nonce).password = "" := rfl
  exact ⟨_, _, run_encrypt_eq_ok.2 ⟨p, ciphertextOf p key nonce, exchangedOf p key nonce, rest, _,
    run_openProfile_eq_ok.2 ⟨node, opened, read, rfl⟩, encryptPassword_eq_ok_iff.2
      ⟨key, nonce, lengthKey, lengthNonce, supply, rfl, rfl⟩, written,
    (run_storeProfile_eq_ok sendable).2 ⟨outPlace, emptied, opening, appended, rfl, rfl⟩, rfl⟩⟩

end Encryption

/-! ## Decryption -/

section Decryption

variable {host : Host} {settings : Settings} {out secretOut : String}

/-- Decryption reads back what was stored in two readable files, and changes nothing. -/
theorem run_decrypt_of_handoff {before : FileTree} {p : LaunchProfile} {key nonce : Bytes}
    {mode : UInt32} (h : Handoff before host.files secretOut out p key nonce mode)
    (apart : h.secretPlace ≠ h.outPlace) (secretReadable : h.secretMode &&& readMask ≠ 0)
    (outReadable : h.outMode &&& readMask ≠ 0) :
    (decrypt settings out secretOut).run host =
      (.ok (.printing ("password recovered for " ++ p.context.username ++ " (" ++
        Text.decimalString p.password.length ++ " characters)\n")), host) := by
  have leads := openNode_of_find h.find_out
  rw [if_neg outReadable] at leads
  have opened : (openProfile settings.decodePolicy out).run host =
      (.ok (exchangedOf p key nonce).wireNormalized, host) :=
    run_openProfile_eq_ok.2 ⟨_, leads, readProfile_stored settings.decodePolicy _ _, rfl⟩
  have received := readSecret_of_find (h.find_secret apart)
  rw [if_neg secretReadable, ciphertextOf, Base64.trimString_encode] at received
  have decrypted := @decryptPassword_keyText (exchangedOf p key nonce).wireNormalized key nonce
    h.lengthKey h.lengthNonce rfl p.password host.entropy
  exact run_decrypt_eq_ok.2 ⟨_, _, _, host.entropy, opened, received, decrypted, rfl, rfl⟩

/-- The text of a profile is no ciphertext. -/
theorem not_decrypted_profile {p : LaunchProfile} {c c' : Custody Entropy} {text : String}
    (stored : Utf8.toString? p.toBytes = some text) :
    (decryptPassword CipherDevice.aesGcm (Text.trimString text)).on c ≠ (.ok (), c') := by
  intro decrypted
  have gone := decryptPassword_cases CipherDevice.aesGcm (Text.trimString text) c
  rw [decrypted] at gone
  cases gone with
  | exchanged split decoded opened =>
    have opened := congrArg Prod.fst opened
    obtain ⟨-, nonce, -, -, spelled⟩ := AesGcmText.texts_of_decrypt opened
    rw [LaunchProfile.toBytes, Json.toBytes, Utf8.toString?, Utf8.decode?_encode,
      Option.map_some] at stored
    obtain rfl := Option.some.inj stored
    have brace : '\x7b' ∈ Json.print p.toJson := List.mem_cons_self
    have ink : Text.isBlank '\x7b' = false := by decide
    have inside : '\x7b' ∈ (Text.trimString (Text.trimString
        (String.ofList (Json.print p.toJson)))).toList := by
      simp only [Text.trimString, String.toList_ofList]
      exact Text.mem_trim (Text.mem_trim brace ink) ink
    rw [spelled] at inside
    exact Json.not_opening_of_mem_encode inside (by decide)

/-- Decryption fails where the profile was stored over the ciphertext, where either of them cannot
be read, and where the ciphertext is found in place of the settings. -/
theorem code_of_decrypt_lost {machine : Machine} {named : Option String} {before : FileTree}
    {p : LaunchProfile} {key nonce : Bytes} {mode : UInt32}
    (h : Handoff before host.files secretOut out p key nonce mode)
    (lost : h.secretPlace = h.outPlace ∨ h.secretMode &&& readMask = 0 ∨
      h.outMode &&& readMask = 0 ∨ host.files.find (Settings.source named) =
        .ok (.file (Utf8.ofString (ciphertextOf p key nonce)) h.secretMode)) :
    (runRequest machine ⟨named, .decrypt out secretOut⟩ host).1.code = 1 := by
  refine code_of_not_done fun finished after done => ?_
  obtain ⟨settings, loaded, decrypted⟩ := run_loadSettings_bind_eq_ok.1 done
  obtain ⟨q, ciphertext, recovered, left, opened, received, decrypted, -, -⟩ :=
    run_decrypt_eq_ok.1 decrypted
  have overwritten (same : h.secretPlace = h.outPlace) : False := by
    have names : h.between.Names secretOut h.outPlace :=
      same ▸ h.namesSecret.of_samePaths h.storesSecret.samePaths
    obtain ⟨text, read, rfl⟩ := map_eq_ok.1 received
    obtain ⟨node, bytes, leads, -, content, spelled⟩ :=
      readText_eq_ok_iff.1 (mapError_eq_ok.1 read)
    rw [h.storesProfile.find names] at leads
    cases leads
    cases content
    exact not_decrypted_profile spelled decrypted
  rcases lost with same | unreadable | unreadable | misplaced
  · exact overwritten same
  · by_cases same : h.secretPlace = h.outPlace
    · exact overwritten same
    · rw [readSecret_of_find (h.find_secret same), if_pos unreadable] at received
      cases received
  · obtain ⟨node, leads, -, -⟩ := run_openProfile_eq_ok.1 opened
    rw [openNode_of_find h.find_out, if_pos unreadable] at leads
    cases leads
  · exact Settings.not_load_of_secret misplaced loaded

end Decryption

end SessionHandoff.CommandLine
