import SessionHandoff.Proofs.CommandLine.Arguments
import SessionHandoff.Proofs.CommandLine.TwoFiles

/-!
# The password of an encrypted profile is recovered

The command line `encrypt --profile P --secret-out S --out O` and after it the command line
`decrypt --profile O --secret S`, with the same settings: if the first ends with code zero, then so
does the second, and it tells the user and the number of characters of the password that stood in P
(`encrypted_password_recovered`). This takes two files that may be read by their owner, and settings
that are not looked for where the ciphertext was put; without one of these the password is not
recovered (`encrypted_password_lost`).
-/

set_option autoImplicit false

namespace SessionHandoff.CommandLine

open FileTree

/-! ## The two command lines -/

/-- The options of an encryption into two files. -/
def encryptOptions (profile secretOut out : String) : List (FileOption × String) :=
  [(.profile, profile), (.secretOut, secretOut), (.out, out)]

/-- The options of a decryption. -/
def decryptOptions (profile secret : String) : List (FileOption × String) :=
  [(.profile, profile), (.secret, secret)]

section Lines

variable {named : Option String} {profile secretOut out secret : String}

theorem fits_encryptOptions : Fits .encrypt (encryptOptions profile secretOut out) := by
  refine ⟨?_, ?_, ?_⟩
  · simp only [encryptOptions, List.forall_mem_cons]
    decide
  · show [FileOption.profile, .secretOut, .out].Nodup
    decide
  · show FileOption.settings ∉ [FileOption.profile, .secretOut, .out]
    decide

theorem fits_decryptOptions : Fits .decrypt (decryptOptions profile secret) := by
  refine ⟨?_, ?_, ?_⟩
  · simp only [decryptOptions, List.forall_mem_cons]
    decide
  · show [FileOption.profile, .secret].Nodup
    decide
  · show FileOption.settings ∉ [FileOption.profile, .secret]
    decide

theorem ofArguments_encrypt (settings : ∀ path ∈ named, IsValue path)
    (values : ∀ path ∈ [profile, secretOut, out], IsValue path) :
    Request.ofArguments (commandLine named .encrypt (encryptOptions profile secretOut out)) =
      .ok ⟨named, .encrypt profile secretOut (some out)⟩ := by
  rw [ofArguments_commandLine fits_encryptOptions settings]
  · rfl
  · simpa [encryptOptions] using values

theorem ofArguments_decrypt (settings : ∀ path ∈ named, IsValue path)
    (values : ∀ path ∈ [profile, secret], IsValue path) :
    Request.ofArguments (commandLine named .decrypt (decryptOptions profile secret)) =
      .ok ⟨named, .decrypt profile secret⟩ := by
  rw [ofArguments_commandLine fits_decryptOptions settings]
  · rfl
  · simpa [decryptOptions] using values

/-- A command line whose run ends with code zero has a value behind every option. -/
theorem isValue_of_code {machine : Machine} {host : Host} {name : CommandName}
    {options : List (FileOption × String)} (fits : Fits name options)
    (exited : (run machine (commandLine named name options) host).1.code = 0) :
    (∀ path ∈ named, IsValue path) ∧ ∀ o ∈ options, IsValue o.2 := by
  refine isValue_of_accepted fits ?_
  rintro ⟨e, wrong⟩
  rw [run, wrong] at exited
  cases exited

end Lines

section Recovery

variable {machine : Machine} {named : Option String} {profile secretOut out : String} {host : Host}

/-- An encryption into two files that ended with code zero stored both of them, and the arguments of
the decryption are those of a decryption. -/
theorem handoff_of_code
    (exited : (run machine (commandLine named .encrypt (encryptOptions profile secretOut out))
      host).1.code = 0)
    (ordinary : host.files.Ordinary out) :
    ∃ finished left settings node p key nonce,
      run machine (commandLine named .encrypt (encryptOptions profile secretOut out)) host =
        (finished, left) ∧
      run machine (commandLine named .decrypt (decryptOptions out secretOut)) left =
        runRequest machine ⟨named, .decrypt out secretOut⟩ left ∧
      Settings.load host.files host.policyValue named = .ok settings ∧
      host.files.openNode profile = .ok node ∧
      (readProfile settings.decodePolicy (sourceOf node)).result = .ok p ∧
      host.entropy = key ++ (nonce ++ left.entropy) ∧ left.policyValue = host.policyValue ∧
      Nonempty
        (Handoff host.files left.files secretOut out p key nonce settings.secretFileMode) := by
  obtain ⟨settingsValue, values⟩ := isValue_of_code fits_encryptOptions exited
  have values : IsValue profile ∧ IsValue secretOut ∧ IsValue out := by
    simpa [encryptOptions] using values
  have asked := @ofArguments_encrypt named profile secretOut out settingsValue
    (by simpa using values)
  have askedBack := @ofArguments_decrypt named out secretOut settingsValue
    (by simpa using values.2.symm)
  have ran : run machine (commandLine named .encrypt (encryptOptions profile secretOut out)) host =
      runRequest machine ⟨named, .encrypt profile secretOut (some out)⟩ host := by
    rw [run, asked]
  rw [ran] at exited ⊢
  obtain ⟨finished, left, done⟩ := done_of_code exited
  obtain ⟨settings, loaded, encrypted⟩ := run_loadSettings_bind_eq_ok.1 done
  obtain ⟨node, p, key, nonce, leads, read, supply, policy, handoff⟩ :=
    handoff_of_encrypt ordinary encrypted
  refine ⟨finished, left, settings, node, p, key, nonce, runRequest_of_done done, ?_, loaded, leads,
    read, supply, policy, handoff⟩
  rw [run, askedBack]

/-- **What `encrypt` took out of a profile `decrypt` puts back.** Let an encryption into two files
end with code zero on any host, where

* the path for the profile leads to a plain file that its owner may read, or to nothing,
* the paths for the ciphertext and for the profile do not lead to one place,
* the permissions that the settings ask for, as they are granted, let the owner read, and
* the ciphertext does not go where settings are looked for when none are named.

Then a profile was read under these settings, the file for the ciphertext holds what its password
seals to under a key and a nonce that were drawn, and the decryption of the two files ends with code
zero, changes nothing, and tells the user of that profile and the length of its password. -/
theorem encrypted_password_recovered (machine : Machine) (named : Option String)
    (profile secretOut out : String) (host : Host)
    (exited : (run machine (commandLine named .encrypt (encryptOptions profile secretOut out))
      host).1.code = 0)
    (ordinary : host.files.Ordinary out)
    (readable : ∀ t content mode, host.files.resolve out = .ok t →
      host.files.get? t.place = some (.file content mode) → mode &&& readMask ≠ 0)
    (apart : ∀ t u, host.files.resolve secretOut = .ok t → host.files.resolve out = .ok u →
      t.place ≠ u.place)
    (granted : ∀ settings, Settings.load host.files host.policyValue named = .ok settings →
      host.files.granted settings.secretFileMode &&& readMask ≠ 0)
    (beside : named = none → ∀ t u, host.files.resolve secretOut = .ok t →
      host.files.resolve Settings.defaultFile = .ok u → t.place ≠ u.place) :
    let after :=
      (run machine (commandLine named .encrypt (encryptOptions profile secretOut out)) host).2
    ∃ settings node p key nonce,
      Settings.load host.files host.policyValue named = .ok settings ∧
      host.files.openNode profile = .ok node ∧
      (readProfile settings.decodePolicy (sourceOf node)).result = .ok p ∧
      key.length = Aes.keyLength ∧ nonce.length = Gcm.nonceLength ∧
      host.entropy = key ++ (nonce ++ after.entropy) ∧
      after.files.readFile secretOut = .ok (Utf8.ofString (ciphertextOf p key nonce)) ∧
      run machine (commandLine named .decrypt (decryptOptions out secretOut)) after =
        (.printing ("password recovered for " ++ p.context.username ++ " (" ++
          Text.decimalString p.password.length ++ " characters)\n"), after) := by
  obtain ⟨finished, left, settings, node, p, key, nonce, ran, askedBack, loaded, leads, read,
    supply, policy, ⟨h⟩⟩ := handoff_of_code exited ordinary
  rw [ran]
  dsimp only
  rw [askedBack]
  -- The two places differ, and the owner may read what stands in them.
  obtain ⟨t, secretLeads, secretAt⟩ := h.namesSecret.resolve
  obtain ⟨u, outLeads, outAt⟩ := h.namesOut.resolve
  have places : h.secretPlace ≠ h.outPlace := by
    rw [← secretAt, ← outAt]
    exact apart t u secretLeads (h.storesSecret.samePaths.resolve.1 outLeads)
  have secretReadable : h.secretMode &&& readMask ≠ 0 := by
    rw [h.secretAccess.and_eq (by decide)]
    exact granted settings loaded
  have outReadable := h.readable_out places (granted settings loaded) readable
  have aside (v : Target) (resolved : host.files.resolve (Settings.source named) = .ok v) :
      v.place ≠ h.secretPlace := by
    cases named with
    | some path => exact h.ne_secretPlace_of_load loaded resolved
    | none =>
      rw [← secretAt]
      exact (beside rfl t v secretLeads resolved).symm
  obtain ⟨settings', reloaded⟩ := h.load loaded aside outReadable
  rw [← policy] at reloaded
  have decrypted : (perform machine ⟨named, .decrypt out secretOut⟩).run left = _ :=
    run_loadSettings_bind_eq_ok.2
      ⟨settings', reloaded, run_decrypt_of_handoff h places secretReadable outReadable⟩
  have stored := openNode_of_find (h.find_secret places)
  rw [if_neg secretReadable] at stored
  exact ⟨settings, node, p, key, nonce, loaded, leads, read, h.lengthKey, h.lengthNonce, supply,
    bind_eq_ok.2 ⟨_, stored, rfl⟩, runRequest_of_done decrypted⟩

/-- Why `decrypt` does not find a password again that `encrypt` took out of a profile: the file for
the profile may be written and not read, both files are one, the settings keep the owner from
reading the ciphertext, or the ciphertext goes to the file where settings are looked for. -/
inductive Lost (host : Host) (named : Option String) (secretOut out : String) : Prop where
  | unreadableProfile {t : Target} {content : Bytes} {mode : UInt32}
      (resolved : host.files.resolve out = .ok t)
      (found : host.files.get? t.place = some (.file content mode))
      (unreadable : mode &&& readMask = 0) : Lost host named secretOut out
  | oneFile {t u : Target} (resolvedSecret : host.files.resolve secretOut = .ok t)
      (resolvedOut : host.files.resolve out = .ok u) (same : t.place = u.place) :
      Lost host named secretOut out
  | unreadableSecret {settings : Settings}
      (loaded : Settings.load host.files host.policyValue named = .ok settings)
      (unreadable : host.files.granted settings.secretFileMode &&& readMask = 0) :
      Lost host named secretOut out
  | misplaced (unnamed : named = none) (default : secretOut = Settings.defaultFile) :
      Lost host named secretOut out

/-- Where the conditions under which a password is recovered fail, it is lost: the second command
ends with code one. -/
theorem encrypted_password_lost
    (exited : (run machine (commandLine named .encrypt (encryptOptions profile secretOut out))
      host).1.code = 0)
    (ordinary : host.files.Ordinary out) (lost : Lost host named secretOut out) :
    (run machine (commandLine named .decrypt (decryptOptions out secretOut))
      (run machine (commandLine named .encrypt (encryptOptions profile secretOut out))
        host).2).1.code = 1 := by
  obtain ⟨finished, left, settings, node, p, key, nonce, ran, askedBack, loaded, -, -, -, -, ⟨h⟩⟩ :=
    handoff_of_code exited ordinary
  rw [ran]
  dsimp only
  rw [askedBack]
  refine code_of_decrypt_lost h ?_
  by_cases same : h.secretPlace = h.outPlace
  · exact .inl same
  refine .inr ?_
  cases lost with
  | unreadableProfile resolved found unreadable =>
    refine .inr (.inl ?_)
    rw [h.outPlace_eq resolved] at found
    rw [h.outAccess.and_eq (by decide), h.storesSecret.modeAt, if_neg (Ne.symm same), modeAt, found]
    exact unreadable
  | oneFile resolvedSecret resolvedOut at' =>
    refine absurd ?_ same
    rw [← h.secretPlace_eq resolvedSecret, ← h.outPlace_eq resolvedOut, at']
  | unreadableSecret loaded' unreadable =>
    refine .inl ?_
    rw [loaded] at loaded'
    cases loaded'
    rw [h.secretAccess.and_eq (by decide)]
    exact unreadable
  | misplaced unnamed default =>
    subst unnamed default
    exact .inr (.inr (h.find_secret same))

/-- Encryption into two files ends with code zero where a profile is read, the random bytes last,
nothing stands where the ciphertext goes, and the profile goes to a file that may be written. -/
theorem code_of_encrypt {settings : Settings} {node : Node} {p : LaunchProfile}
    {key nonce rest : Bytes} {secretPlace outPlace : Place}
    (settingsValue : ∀ path ∈ named, IsValue path)
    (values : ∀ path ∈ [profile, secretOut, out], IsValue path)
    (loaded : Settings.load host.files host.policyValue named = .ok settings)
    (opened : host.files.openNode profile = .ok node)
    (read : (readProfile settings.decodePolicy (sourceOf node)).result = .ok p)
    (lengthKey : key.length = Aes.keyLength) (lengthNonce : nonce.length = Gcm.nonceLength)
    (supply : host.entropy = key ++ (nonce ++ rest))
    (locatesSecret : host.files.Locates secretOut secretPlace)
    (absent : host.files.get? secretPlace = none) (namesOut : host.files.Names out outPlace)
    (plain : ∀ node, host.files.get? outPlace = some node → node.IsFile)
    (writable : (if outPlace = secretPlace then host.files.granted settings.secretFileMode
      else host.files.modeAt outPlace) &&& writeMask ≠ 0) :
    (run machine (commandLine named .encrypt (encryptOptions profile secretOut out))
      host).1.code = 0 := by
  obtain ⟨finished, left, done⟩ := exists_encrypt opened read lengthKey lengthNonce supply
    locatesSecret absent namesOut plain writable
  have performed : (perform machine ⟨named, .encrypt profile secretOut (some out)⟩).run host =
      (.ok finished, left) := run_loadSettings_bind_eq_ok.2 ⟨settings, loaded, done⟩
  obtain ⟨-, -, -, -, shared, -, -, -, -, rfl⟩ := run_encrypt_eq_ok.1 done
  rw [run, ofArguments_encrypt settingsValue values]
  dsimp only
  rw [runRequest_of_done performed]

end Recovery

/-! ## Runs on one host -/

/-- A profile with a password of six characters. -/
def sampleProfile : LaunchProfile :=
  { context := { username := "alice" }
    password := "s3cr3t"
    executable := "/bin/true"
    config := { environment := .ofList [("PATH", "/usr/bin:/bin")] } }

/-- A host with that profile, a settings file that asks for no permission at all, and a file that
its owner may write and not read. -/
def sampleHost : Host where
  files :=
    { nodes := [(["p"], .file sampleProfile.toBytes 0o600),
        (["c"], .file (Utf8.ofString "\x7b\"secret_file_mode\":0\x7d") 0o600),
        (["w"], .file [] 0o200)]
      workingFolder := []
      umask := 0o022 }
  entropy := List.replicate 44 7

/-- A machine without programs. Neither command starts any. -/
def sampleMachine : Machine := ⟨.linux, fun _ => none⟩

/-- The run that encrypts the profile of the host into two files. -/
def sampleEncrypted (named : Option String) (secretOut out : String) : Finished × Host :=
  run sampleMachine (commandLine named .encrypt (encryptOptions "p" secretOut out)) sampleHost

/-- The run that decrypts these files after it. -/
def sampleDecrypted (named : Option String) (secretOut out : String) : Finished × Host :=
  run sampleMachine (commandLine named .decrypt (decryptOptions out secretOut))
    (sampleEncrypted named secretOut out).2

/-- Whether the host has settings to encrypt its profile with, into two files of its only folder. -/
structure SampleLine (named : Option String) (settings : Settings) (secretOut out : String) :
    Prop where
  loaded : Settings.load sampleHost.files none named = .ok settings
  settingsValue : ∀ path ∈ named, IsValue path
  values : ∀ path ∈ ["p", secretOut, out], IsValue path
  locatesSecret : sampleHost.files.Locates secretOut [secretOut]
  absent : sampleHost.files.get? [secretOut] = none
  namesOut : sampleHost.files.Names out [out]
  plain : ∀ node, sampleHost.files.get? [out] = some node → node.IsFile
  writable : (if [out] = [secretOut] then sampleHost.files.granted settings.secretFileMode
    else sampleHost.files.modeAt [out]) &&& writeMask ≠ 0

namespace SampleLine

variable {named : Option String} {settings : Settings} {secretOut out : String}

theorem code_eq_zero (line : SampleLine named settings secretOut out) :
    (sampleEncrypted named secretOut out).1.code = 0 := by
  have opened : sampleHost.files.openNode "p" = .ok (.file sampleProfile.toBytes 0o600) := rfl
  have supply : sampleHost.entropy = List.replicate 32 7 ++ (List.replicate 12 7 ++ []) := rfl
  exact code_of_encrypt line.settingsValue line.values line.loaded opened (readProfile_stored _ _ _)
    rfl rfl supply line.locatesSecret line.absent line.namesOut line.plain line.writable

theorem code_eq_one (line : SampleLine named settings secretOut out)
    (lost : Lost sampleHost named secretOut out) :
    (sampleEncrypted named secretOut out).1.code = 0 ∧
      (sampleDecrypted named secretOut out).1.code = 1 :=
  ⟨line.code_eq_zero,
    encrypted_password_lost line.code_eq_zero (line.namesOut.ordinary line.plain) lost⟩

end SampleLine

/-- The profile is encrypted in place, without a settings file. -/
theorem encrypted_password_recovered_in_place :
    (sampleEncrypted none "s" "p").1.code = 0 ∧
      sampleDecrypted none "s" "p" = (.printing "password recovered for alice (6 characters)\n",
        (sampleEncrypted none "s" "p").2) := by
  have secretOut : sampleHost.files.resolve "s" = .ok ⟨[], .name "s" false⟩ := rfl
  have located : sampleHost.files.locate "s" = .ok ⟨[], .name "s" false⟩ := rfl
  have out : sampleHost.files.resolve "p" = .ok ⟨[], .name "p" false⟩ := rfl
  have default : sampleHost.files.resolve Settings.defaultFile =
      .ok ⟨[], .name "session-launch.json" false⟩ := rfl
  have line : SampleLine none {} "s" "p" := by
    refine ⟨rfl, by decide, by decide, ⟨_, _, located, rfl, rfl⟩, rfl, ⟨_, _, out, rfl, rfl⟩,
      fun node found => ?_, by decide⟩
    cases found
    exact ⟨_, _, rfl⟩
  have exited := line.code_eq_zero
  rw [sampleDecrypted]
  rw [sampleEncrypted] at exited ⊢
  obtain ⟨settings, node, p, key, nonce, loaded, opened, read, -, -, -, -, decrypted⟩ :=
    encrypted_password_recovered sampleMachine none "p" "s" "p" sampleHost exited
      (line.namesOut.ordinary line.plain)
      (by
        intro t content mode resolved found
        cases out.symm.trans resolved
        cases found
        decide)
      (by
        intro t u resolved resolved'
        cases secretOut.symm.trans resolved
        cases out.symm.trans resolved'
        decide)
      (by
        intro settings loaded
        cases line.loaded.symm.trans loaded
        decide)
      (by
        intro unnamed t u resolved resolved'
        cases secretOut.symm.trans resolved
        cases default.symm.trans resolved'
        decide)
  have stored : sampleHost.files.openNode "p" = .ok (.file sampleProfile.toBytes 0o600) := rfl
  cases stored.symm.trans opened
  rw [readProfile_stored] at read
  cases read
  exact ⟨exited, decrypted⟩

/-- Four encryptions that end with code zero and whose decryptions do not: with settings that ask
for no permission, into one file, into the file where settings are looked for, and into a file that
its owner may not read. -/
theorem encrypted_password_not_recovered :
    ((sampleEncrypted (some "c") "s" "o").1.code = 0 ∧
      (sampleDecrypted (some "c") "s" "o").1.code = 1) ∧
    ((sampleEncrypted none "s" "s").1.code = 0 ∧ (sampleDecrypted none "s" "s").1.code = 1) ∧
    ((sampleEncrypted none "session-launch.json" "o").1.code = 0 ∧
      (sampleDecrypted none "session-launch.json" "o").1.code = 1) ∧
    ((sampleEncrypted none "s" "w").1.code = 0 ∧ (sampleDecrypted none "s" "w").1.code = 1) := by
  have s : sampleHost.files.Locates "s" ["s"] := ⟨[], "s", rfl, rfl, rfl⟩
  have o : sampleHost.files.Names "o" ["o"] := ⟨[], "o", rfl, rfl, rfl⟩
  have w : sampleHost.files.Names "w" ["w"] := ⟨[], "w", rfl, rfl, rfl⟩
  have default : sampleHost.files.Locates "session-launch.json" ["session-launch.json"] :=
    ⟨[], "session-launch.json", rfl, rfl, rfl⟩
  have modeless : SampleLine (some "c") { secretFileMode := 0 } "s" "o" :=
    ⟨rfl, by decide, by decide, s, rfl, o, nofun, by decide⟩
  have oneFile : SampleLine none {} "s" "s" :=
    ⟨rfl, by decide, by decide, s, rfl, s.names nofun, nofun, by decide⟩
  have misplaced : SampleLine none {} "session-launch.json" "o" :=
    ⟨rfl, by decide, by decide, default, rfl, o, nofun, by decide⟩
  have writeOnly : SampleLine none {} "s" "w" := by
    refine ⟨rfl, by decide, by decide, s, rfl, w, fun node found => ?_, by decide⟩
    cases found
    exact ⟨_, _, rfl⟩
  exact ⟨modeless.code_eq_one (.unreadableSecret modeless.loaded (by decide)),
    oneFile.code_eq_one (.oneFile rfl rfl rfl),
    misplaced.code_eq_one (.misplaced rfl rfl),
    writeOnly.code_eq_one (.unreadableProfile rfl rfl (by decide))⟩

end SessionHandoff.CommandLine
