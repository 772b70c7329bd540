import SessionHandoff.CommandLine.Commands
import SessionHandoff.Proofs.Outcome
import SessionHandoff.Proofs.Password.Exchange
import SessionHandoff.Proofs.Storage.Settings

/-!
# What the steps of a command come to

A command goes on where its step before left the host, unless that step failed (`run_bind_eq_ok`).
So each step, each command and the whole run are taken apart by one equivalence: they succeeded if
and only if the parts of them did, and then the host is what these made of it. The equivalences for
the commands are `run_encrypt_eq_ok` and `run_decrypt_eq_ok`. A run whose code is zero did not fail
(`done_of_code`).
-/

set_option autoImplicit false

namespace SessionHandoff.CommandLine

open CommandM

/-! ## Composition -/

section Composition

variable {α β : Type} {host host' : Host}

theorem run_bind (act : CommandM α) (f : α → CommandM β) (host : Host) :
    (act >>= f).run host =
      match act.run host with
      | (.ok a, between) => (f a).run between
      | (.error e, between) => (.error e, between) := by
  show ExceptT.bindCont f (act.run host).1 (act.run host).2 = _
  rcases act.run host with ⟨e | a, between⟩
  · rfl
  · rfl

theorem run_bind_eq_ok {act : CommandM α} {f : α → CommandM β} {b : β} :
    (act >>= f).run host = (.ok b, host') ↔
      ∃ a between, act.run host = (.ok a, between) ∧ (f a).run between = (.ok b, host') := by
  rw [run_bind]
  constructor
  · intro ran
    rcases first : act.run host with ⟨e | a, between⟩
    · rw [first] at ran
      cases ran
    · rw [first] at ran
      exact ⟨a, between, rfl, ran⟩
  · rintro ⟨a, between, first, second⟩
    rw [first]
    exact second

theorem run_pure_eq_ok {a b : α} :
    (pure a : CommandM α).run host = (.ok b, host') ↔ b = a ∧ host' = host := by
  show (Except.ok a, host) = _ ↔ _
  simp [eq_comm]

theorem run_explained_eq_ok {explain : LaunchError → Failure} {result : Except LaunchError α}
    {a : α} :
    (explained explain result : CommandM α).run host = (.ok a, host') ↔
      result = .ok a ∧ host' = host := by
  cases result with
  | error e =>
    show (Except.error _, host) = _ ↔ _
    simp
  | ok b =>
    show (Except.ok b, host) = _ ↔ _
    simp [eq_comm]

theorem run_explained_bind_eq_ok {explain : LaunchError → Failure}
    {result : Except LaunchError α} {f : α → CommandM β} {b : β} :
    (explained explain result >>= f).run host = (.ok b, host') ↔
      ∃ a, result = .ok a ∧ (f a).run host = (.ok b, host') := by
  rw [run_bind_eq_ok]
  constructor
  · rintro ⟨a, between, first, second⟩
    obtain ⟨succeeded, rfl⟩ := run_explained_eq_ok.1 first
    exact ⟨a, succeeded, second⟩
  · rintro ⟨a, succeeded, second⟩
    exact ⟨a, host, run_explained_eq_ok.2 ⟨succeeded, rfl⟩, second⟩

theorem run_get_bind (f : Host → CommandM α) :
    (get >>= f : CommandM α).run host = (f host).run host := rfl

theorem run_set_bind (between : Host) (f : PUnit → CommandM α) :
    (set between >>= f : CommandM α).run host = (f ⟨⟩).run between := rfl

theorem run_changeFiles_bind (change : FileTree → FileTree × α) (f : α → CommandM β) :
    (changeFiles change >>= f : CommandM β).run host =
      (f (change host.files).2).run { host with files := (change host.files).1 } := rfl

end Composition

/-! ## Steps -/

section Steps

variable {host host' : Host} {settings : Settings} {p : LaunchProfile}

theorem run_loadSettings_eq_ok {named : Option String} :
    (loadSettings named).run host = (.ok settings, host') ↔
      Settings.load host.files host.policyValue named = .ok settings ∧ host' = host := by
  rw [loadSettings, run_get_bind, run_explained_eq_ok]
  cases named with
  | none => rfl
  | some path => rfl

theorem run_openProfile_eq_ok {policy : DecodePolicy} {path : String} :
    (openProfile policy path).run host = (.ok p, host') ↔
      ∃ node, host.files.openNode path = .ok node ∧
        (readProfile policy (sourceOf node)).result = .ok p ∧ host' = host := by
  rw [openProfile, run_get_bind]
  cases host.files.openNode path with
  | error e =>
    show (Except.error _, host) = _ ↔ _
    simp
  | ok node =>
    simp only [run_explained_eq_ok]
    simp

theorem run_withCustody_eq_ok {α : Type} {activity : Activity} {act : CustodyM Entropy α}
    {a : α} {p' : LaunchProfile} :
    (withCustody activity p act).run host = (.ok (a, p'), host') ↔
      ∃ left, act.on ⟨p, host.entropy⟩ = (.ok a, ⟨p', left⟩) ∧
        host' = { host with entropy := left } := by
  rw [withCustody, run_get_bind]
  dsimp only
  rw [run_set_bind, run_bind_eq_ok]
  rcases act.on ⟨p, host.entropy⟩ with ⟨result, custody⟩
  constructor
  · rintro ⟨b, between, explained, returned⟩
    obtain ⟨rfl, rfl⟩ := run_explained_eq_ok.1 explained
    obtain ⟨same, rfl⟩ := run_pure_eq_ok.1 returned
    cases same
    exact ⟨_, rfl, rfl⟩
  · rintro ⟨left, same, rfl⟩
    cases same
    exact ⟨a, _, run_explained_eq_ok.2 ⟨rfl, rfl⟩, rfl⟩

/-- A profile without password is stored by making or emptying the file and putting its bytes into
it. -/
theorem run_storeProfile_eq_ok {path : String} {shared : List (OutStream × Bytes)}
    (sendable : p.password = "") :
    (storeProfile path p).run host = (.ok shared, host') ↔
      ∃ place files, host.files.createOrEmpty path = .ok (place, files) ∧
        (files.append place p.toBytes).2 = .ok () ∧
        shared = ((streamAt? files place).map fun s => (s, p.toBytes)).toList ∧
        host' = { host with files := (files.append place p.toBytes).1 } := by
  have whole : (p.write {}).result = .ok () :=
    LaunchProfile.write_of_room sendable (ByteSink.hasRoom_of_unbounded rfl rfl _)
  have arrived := LaunchProfile.arrived_of_write sendable whole
  rw [storeProfile, run_get_bind]
  cases host.files.createOrEmpty path with
  | error e =>
    show (Except.error _, host) = _ ↔ _
    simp
  | ok made =>
    obtain ⟨place, files⟩ := made
    dsimp only
    rw [run_changeFiles_bind, run_explained_bind_eq_ok]
    constructor
    · rintro ⟨-, -, ran⟩
      rw [run_changeFiles_bind] at ran
      obtain ⟨⟨⟩, stored, ran⟩ := run_explained_bind_eq_ok.1 ran
      obtain ⟨rfl, rfl⟩ := run_pure_eq_ok.1 ran
      rw [arrived] at stored ⊢
      exact ⟨place, files, rfl, mapError_eq_ok.1 stored, rfl, rfl⟩
    · rintro ⟨_, _, same, stored, rfl, rfl⟩
      obtain ⟨rfl, rfl⟩ := Prod.mk.inj (Except.ok.inj same)
      refine ⟨(), whole, ?_⟩
      rw [run_changeFiles_bind, arrived]
      exact run_explained_bind_eq_ok.2 ⟨(), mapError_eq_ok.2 stored, rfl⟩

/-- Encryption into two files succeeds if each of its steps does. -/
theorem run_encrypt_eq_ok {profile secretOut out : String} {finished : Finished} :
    (encrypt settings profile secretOut (some out)).run host = (.ok finished, host') ↔
      ∃ p ciphertext outgoing between shared,
        (openProfile settings.decodePolicy profile).run host = (.ok p, host) ∧
        (encryptPassword CipherDevice.aesGcm).on ⟨p, host.entropy⟩ =
          (.ok ciphertext, ⟨outgoing, between⟩) ∧
        (writeSecret host.files secretOut ciphertext settings.secretFileMode).2 = .ok () ∧
        (storeProfile out outgoing).run ⟨(writeSecret host.files secretOut ciphertext
          settings.secretFileMode).1, between, host.policyValue⟩ = (.ok shared, host') ∧
        finished = ⟨0, shared⟩ := by
  rw [encrypt]
  constructor
  · intro ran
    obtain ⟨p, _, opened, exchanging⟩ := run_bind_eq_ok.1 ran
    obtain ⟨node, leads, read, rfl⟩ := run_openProfile_eq_ok.1 opened
    obtain ⟨⟨ciphertext, outgoing⟩, _, exchanged, writing⟩ := run_bind_eq_ok.1 exchanging
    obtain ⟨between, encrypted, rfl⟩ := run_withCustody_eq_ok.1 exchanged
    rw [run_changeFiles_bind] at writing
    obtain ⟨⟨⟩, written, storing⟩ := run_explained_bind_eq_ok.1 writing
    obtain ⟨shared, _, stored, returned⟩ := run_bind_eq_ok.1 storing
    obtain ⟨rfl, rfl⟩ := run_pure_eq_ok.1 returned
    exact ⟨p, ciphertext, outgoing, between, shared, opened, encrypted, written, stored, rfl⟩
  · rintro ⟨p, ciphertext, outgoing, between, shared, opened, encrypted, written, stored, rfl⟩
    refine run_bind_eq_ok.2 ⟨p, host, opened, run_bind_eq_ok.2
      ⟨(ciphertext, outgoing), _, run_withCustody_eq_ok.2 ⟨between, encrypted, rfl⟩, ?_⟩⟩
    rw [run_changeFiles_bind]
    exact run_explained_bind_eq_ok.2 ⟨(), written, run_bind_eq_ok.2 ⟨shared, _, stored, rfl⟩⟩

/-- Decryption succeeds if each of its steps does, and changes nothing. -/
theorem run_decrypt_eq_ok {profile secret : String} {finished : Finished} :
    (decrypt settings profile secret).run host = (.ok finished, host') ↔
      ∃ p ciphertext recovered between,
        (openProfile settings.decodePolicy profile).run host = (.ok p, host) ∧
        readSecret host.files secret = .ok ciphertext ∧
        (decryptPassword CipherDevice.aesGcm ciphertext).on ⟨p, host.entropy⟩ =
          (.ok (), ⟨recovered, between⟩) ∧
        finished = .printing ("password recovered for " ++ recovered.context.username ++ " (" ++
          Text.decimalString recovered.password.length ++ " characters)\n") ∧
        host' = { host with entropy := between } := by
  rw [decrypt]
  constructor
  · intro ran
    obtain ⟨p, _, opened, receiving⟩ := run_bind_eq_ok.1 ran
    obtain ⟨node, leads, read, rfl⟩ := run_openProfile_eq_ok.1 opened
    rw [run_get_bind] at receiving
    obtain ⟨ciphertext, received, exchanging⟩ := run_explained_bind_eq_ok.1 receiving
    obtain ⟨⟨⟨⟩, recovered⟩, _, exchanged, returned⟩ := run_bind_eq_ok.1 exchanging
    obtain ⟨between, decrypted, rfl⟩ := run_withCustody_eq_ok.1 exchanged
    obtain ⟨rfl, rfl⟩ := run_pure_eq_ok.1 returned
    exact ⟨p, ciphertext, recovered, between, opened, received, decrypted, rfl, rfl⟩
  · rintro ⟨p, ciphertext, recovered, between, opened, received, decrypted, rfl, rfl⟩
    refine run_bind_eq_ok.2 ⟨p, host, opened, ?_⟩
    rw [run_get_bind]
    exact run_explained_bind_eq_ok.2 ⟨ciphertext, received, run_bind_eq_ok.2
      ⟨((), recovered), _, run_withCustody_eq_ok.2 ⟨between, decrypted, rfl⟩, rfl⟩⟩

/-- A command is done under the settings that are loaded for it. -/
theorem run_loadSettings_bind_eq_ok {named : Option String} {act : Settings → CommandM Finished}
    {finished : Finished} :
    (loadSettings named >>= act).run host = (.ok finished, host') ↔
      ∃ settings, Settings.load host.files host.policyValue named = .ok settings ∧
        (act settings).run host = (.ok finished, host') := by
  rw [run_bind_eq_ok]
  constructor
  · rintro ⟨settings, _, loaded, ran⟩
    obtain ⟨found, rfl⟩ := run_loadSettings_eq_ok.1 loaded
    exact ⟨settings, found, ran⟩
  · rintro ⟨settings, found, ran⟩
    exact ⟨settings, host, run_loadSettings_eq_ok.2 ⟨found, rfl⟩, ran⟩

end Steps

/-! ## Runs -/

section Runs

variable {machine : Machine} {named : Option String} {host : Host}

theorem runRequest_of_done {request : Request} {finished : Finished} {after : Host}
    (done : (perform machine request).run host = (.ok finished, after)) :
    runRequest machine request host = (finished, after) := by
  rw [runRequest, done]

/-- A run whose code is zero did not fail. -/
theorem done_of_code {request : Request} (code : (runRequest machine request host).1.code = 0) :
    ∃ finished after, (perform machine request).run host = (.ok finished, after) := by
  unfold runRequest at code
  split at code
  · rename_i finished after done
    exact ⟨finished, after, done⟩
  · cases code

/-- A run that did not do what was asked for failed, and its code is one. -/
theorem code_of_not_done {request : Request}
    (failed : ∀ finished after, (perform machine request).run host ≠ (.ok finished, after)) :
    (runRequest machine request host).1.code = 1 := by
  unfold runRequest
  split
  · rename_i finished after done
    exact absurd done (failed finished after)
  · rfl

end Runs

end SessionHandoff.CommandLine
