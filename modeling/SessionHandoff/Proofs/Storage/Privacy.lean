import SessionHandoff.Proofs.Storage.Secret
import SessionHandoff.Proofs.Storage.Settings

/-!
# Accepted settings keep secrets private

Settings that are loaded ask for no permission of anybody but the owner
(`Settings.mode_of_load`), and what is not asked for is not granted, whatever the umask is. So a
secret that is written under them is in a file of its owner's alone.

The other way round, a settings file that gives other permissions is never accepted. The permissions
of a file are those that its one member or its third item spells (`Settings.GivesMode`), and
parsing does not change them (`Settings.mode_of_ofTree?`). Either they are reported, or a fault that
is met before them is. `Settings.accepted_settings_private` says both.
-/

set_option autoImplicit false

namespace SessionHandoff

/-- A plain file with no permission for anybody but its owner. -/
def Node.IsPrivate (node : Node) : Prop :=
  ∃ content mode, node = .file content mode ∧ mode &&& Settings.othersMask = 0

/-! ## Writing with private permissions -/

section Writing

variable {disk : FileTree} {path secret : String} {mode : UInt32}

/-- Permissions that are not asked for are not granted. -/
theorem FileTree.granted_and_eq_zero {mask : UInt32} (h : mode &&& mask = 0) :
    disk.granted mode &&& mask = 0 := by
  rw [granted, UInt32.and_assoc, UInt32.and_comm _ mask, ← UInt32.and_assoc,
    UInt32.and_comm (mode &&& _), ← UInt32.and_assoc, UInt32.and_comm mask, h, UInt32.zero_and,
    UInt32.zero_and]

/-- Where a secret is written nothing stood, and its owner's file stands there now. -/
theorem private_of_writeSecret (asked : mode &&& Settings.othersMask = 0)
    (done : (writeSecret disk path secret mode).2 = .ok ()) :
    ∃ place granted, disk.Names path place ∧ disk.get? place = none ∧
      granted &&& Settings.othersMask = 0 ∧
      FileTree.Stores place (Utf8.ofString secret) granted disk
        (writeSecret disk path secret mode).1 := by
  obtain ⟨place, tree', made⟩ := exists_createNew_of_writeSecret done
  obtain ⟨-, granted, access, stores⟩ := stores_of_writeSecret made secret
  obtain ⟨names, absent, -⟩ := FileTree.names_of_createNew made
  refine ⟨place, granted, names, absent, ?_, stores⟩
  -- what was granted is what was asked for, less the umask
  rw [access.and_eq (by decide)]
  exact FileTree.granted_and_eq_zero asked

/-- A secret that cannot be written leaves the files alone. -/
theorem writeSecret_of_error {e : LaunchError}
    (failed : (writeSecret disk path secret mode).2 = .error e) :
    (writeSecret disk path secret mode).1 = disk := by
  cases made : disk.createNew path mode with
  | error cause =>
    rw [writeSecret, made]
  | ok r =>
    obtain ⟨place, tree'⟩ := r
    obtain ⟨done, -⟩ := stores_of_writeSecret made secret
    rw [failed] at done
    cases done

end Writing

namespace Settings

/-! ## Permissions of accepted settings -/

section Loading

variable {tree : FileTree} {policyValue : Option Bytes} {named : Option String}
variable {s s' : Settings}

/-- The variable changes nothing but the decode policy. -/
theorem mode_of_override (h : s.override policyValue = .ok s') :
    s'.secretFileMode = s.secretFileMode := by
  unfold override at h
  split at h
  · cases h
    rfl
  · obtain ⟨policy, -, rfl⟩ := map_eq_ok.1 h
    rfl

theorem validate_eq_ok_iff :
    s.validate = .ok s' ↔ s' = s ∧ s.secretFileMode &&& othersMask = 0 := by
  unfold validate
  constructor
  · intro h
    split at h
    · next owned =>
        cases h
        exact ⟨rfl, owned⟩
    · cases h
  · rintro ⟨rfl, owned⟩
    rw [if_pos owned]

/-- Accepted settings ask for no permission of anybody but the owner, also where no file was
read. -/
theorem mode_of_load (loaded : load tree policyValue named = .ok s) :
    s.secretFileMode &&& othersMask = 0 := by
  rcases load_eq_ok_iff.1 loaded with ⟨node, -, bytes, text, parsed, -, -, -, -, valid⟩ |
    ⟨-, -, defaults⟩
  · obtain ⟨overridden, -, valid⟩ := bind_eq_ok.1 valid
    obtain ⟨rfl, owned⟩ := validate_eq_ok_iff.1 valid
    exact owned
  · rw [mode_of_override defaults]
    decide

end Loading

/-! ## Permissions of a settings file -/

/-- The tree of a settings file gives permissions for secret files: in a member of an object, or as
the third item of an array. Neither has to be well formed as settings for that. -/
inductive GivesMode : Json.Tree → UInt32 → Prop where
  | member {members : List (List Json.Piece × Json.Tree)} {key : List Json.Piece} {t : Json.Tree}
      {mode : UInt32} (inside : (key, t) ∈ members)
      (spelled : Json.Piece.string? key = some "secret_file_mode")
      (number : modeOfTree? t = some mode) : GivesMode (.object members) mode
  | item {first second t : Json.Tree} {rest : List Json.Tree} {mode : UInt32}
      (number : modeOfTree? t = some mode) : GivesMode (.array (first :: second :: t :: rest)) mode

section Parsing

variable {s s' : Settings} {mode : UInt32}

theorem mode_of_set? {t : Json.Tree} (h : s.set? .secretFileMode t = some s') :
    modeOfTree? t = some s'.secretFileMode := by
  obtain ⟨mode, number, rfl⟩ := Option.map_eq_some_iff.1 h
  exact number

/-- Setting another field keeps the permissions. -/
theorem mode_of_set?_other {field : Field} {t : Json.Tree} (other : field ≠ .secretFileMode)
    (h : s.set? field t = some s') : s'.secretFileMode = s.secretFileMode := by
  cases field with
  | decodePolicy =>
    obtain ⟨policy, -, rfl⟩ := Option.map_eq_some_iff.1 h
    rfl
  | strictLimits =>
    cases t with
    | flag b =>
      cases h
      rfl
    | null | number n | text pieces | array items | object members => cases h
  | secretFileMode => exact absurd rfl other

/-- The key of a field. -/
def Field.key : Field → String
  | .decodePolicy => "decode_policy"
  | .strictLimits => "strict_limits"
  | .secretFileMode => "secret_file_mode"

theorem ofKey?_eq_some_iff {key : String} {field : Field} :
    Field.ofKey? key = some field ↔ key = field.key := by
  unfold Field.ofKey?
  constructor
  · intro known
    split at known
    · next same =>
        cases known
        exact same
    · split at known
      · next same =>
          cases known
          exact same
      · split at known
        · next same =>
            cases known
            exact same
        · cases known
  · rintro rfl
    cases field <;> decide

/-- What reading one more member means: its key is foreign, or it sets a field that was not met. -/
theorem ofMembers?_cons_cases {key : List Json.Piece} {t : Json.Tree} {met : List Field}
    {rest : List (List Json.Piece × Json.Tree)}
    (parsed : ofMembers? s met ((key, t) :: rest) = some s') :
    ∃ k, Json.Piece.string? key = some k ∧
      ((Field.ofKey? k = none ∧ ofMembers? s met rest = some s') ∨
        ∃ field s₁, Field.ofKey? k = some field ∧ field ∉ met ∧ s.set? field t = some s₁ ∧
          ofMembers? s₁ (field :: met) rest = some s') := by
  rw [ofMembers?] at parsed
  obtain ⟨k, spelled, parsed⟩ := Option.bind_eq_some_iff.1 parsed
  refine ⟨k, spelled, ?_⟩
  cases known : Field.ofKey? k with
  | none =>
    rw [known] at parsed
    exact .inl ⟨rfl, parsed⟩
  | some field =>
    rw [known] at parsed
    dsimp only at parsed
    split at parsed
    · cases parsed
    · next fresh =>
        obtain ⟨s₁, set, parsed⟩ := Option.bind_eq_some_iff.1 parsed
        refine .inr ⟨field, s₁, rfl, ?_, set, parsed⟩
        intro before
        exact fresh (List.contains_iff_mem.2 before)

/-- Once the permissions were met, they stay. -/
theorem mode_of_ofMembers?_met {members : List (List Json.Piece × Json.Tree)} {met : List Field}
    (parsed : ofMembers? s met members = some s') (before : .secretFileMode ∈ met) :
    s'.secretFileMode = s.secretFileMode := by
  induction members generalizing s met with
  | nil =>
    cases parsed
    rfl
  | cons first rest ih =>
    obtain ⟨key, t⟩ := first
    obtain ⟨k, -, ⟨-, parsed⟩ | ⟨field, s₁, -, fresh, set, parsed⟩⟩ := ofMembers?_cons_cases parsed
    · exact ih parsed before
    · -- a field that was not met is another one
      have other : field ≠ .secretFileMode := by
        rintro rfl
        exact fresh before
      have kept := ih parsed (List.mem_cons_of_mem _ before)
      exact kept.trans (mode_of_set?_other other set)

/-- The permissions of the settings are those of the member that gives them. -/
theorem mode_of_ofMembers? {members : List (List Json.Piece × Json.Tree)} {met : List Field}
    {key : List Json.Piece} {t : Json.Tree} (parsed : ofMembers? s met members = some s')
    (inside : (key, t) ∈ members) (spelled : Json.Piece.string? key = some "secret_file_mode")
    (number : modeOfTree? t = some mode) : s'.secretFileMode = mode := by
  induction members generalizing s met with
  | nil => exact absurd inside List.not_mem_nil
  | cons first rest ih =>
    obtain ⟨key', t'⟩ := first
    obtain ⟨k, named, step⟩ := ofMembers?_cons_cases parsed
    rcases List.mem_cons.1 inside with here | later
    · cases here
      have known : Field.ofKey? k = some .secretFileMode :=
        ofKey?_eq_some_iff.2 (Option.some.inj (named.symm.trans spelled))
      rcases step with ⟨foreign, -⟩ | ⟨field, s₁, same, -, set, parsed⟩
      · rw [known] at foreign
        cases foreign
      · -- behind this member the permissions were met, and no other member changes them
        cases known.symm.trans same
        rw [mode_of_ofMembers?_met parsed List.mem_cons_self]
        exact Option.some.inj ((mode_of_set? set).symm.trans number)
    · rcases step with ⟨-, parsed⟩ | ⟨field, s₁, -, -, -, parsed⟩
      · exact ih parsed later
      · exact ih parsed later

/-- Parsing a settings file keeps the permissions that it gives. -/
theorem mode_of_ofTree? {t : Json.Tree} (parsed : ofTree? t = some s) (given : GivesMode t mode) :
    s.secretFileMode = mode := by
  cases given with
  | member inside spelled number => exact mode_of_ofMembers? parsed inside spelled number
  | @item first second t rest mode number =>
    -- the third field in order is the one of the permissions, and none comes behind it
    obtain ⟨s₁, -, parsed⟩ := Option.bind_eq_some_iff.1 parsed
    obtain ⟨s₂, -, parsed⟩ := Option.bind_eq_some_iff.1 parsed
    obtain ⟨s₃, set, last⟩ := Option.bind_eq_some_iff.1 parsed
    cases rest with
    | nil =>
      cases last
      exact Option.some.inj ((mode_of_set? set).symm.trans number)
    | cons next rest => cases last

end Parsing

/-! ## Refused settings -/

/-- A fault that is met before the permissions are looked at: the file cannot be read, it holds no
settings, or the variable names no decode policy. -/
inductive EarlierFault (tree : FileTree) (policyValue : Option Bytes) (path : String) :
    ConfigFault → Prop where
  | unreadable {e : IoError} (read : tree.readText path = .error e) :
      EarlierFault tree policyValue path (.unreadable e)
  | malformed {text : String} (read : tree.readText path = .ok text)
      (parsed : parse? text = none) : EarlierFault tree policyValue path .malformed
  | variable {text value : String} {s : Settings} {f : ConfigFault}
      (read : tree.readText path = .ok text) (parsed : parse? text = some s)
      (given : policyValue.bind Utf8.toString? = some value)
      (refused : DecodePolicy.ofText value = .error (.config f)) :
      EarlierFault tree policyValue path f

section Refusing

variable {tree : FileTree} {policyValue : Option Bytes} {path : String} {named : Option String}

/-- Where something stands, the default file is loaded as one that is named. -/
theorem load_of_find {node : Node} (found : tree.find (source named) = .ok node) :
    load tree policyValue named = loadFile tree policyValue (source named) := by
  cases named with
  | some path => rfl
  | none =>
    have there : tree.hasEntry defaultFile = true := by
      rw [FileTree.hasEntry, show tree.find defaultFile = .ok node from found]
      rfl
    exact if_pos there

theorem ofText_error {value : String} {e : LaunchError}
    (refused : DecodePolicy.ofText value = .error e) : ∃ f, e = .config f := by
  unfold DecodePolicy.ofText at refused
  dsimp only at refused
  split at refused
  · cases refused
  · split at refused
    · cases refused
    · cases refused
      exact ⟨_, rfl⟩

/-- What comes out of a settings file: a fault that is met early, or settings that are parsed, whose
permissions then decide. -/
theorem loadFile_cases (tree : FileTree) (policyValue : Option Bytes) (path : String) :
    (∃ f, loadFile tree policyValue path = .error (.config f) ∧
      EarlierFault tree policyValue path f) ∨
    (∃ text parsed s, tree.readText path = .ok text ∧ parse? text = some parsed ∧
      parsed.override policyValue = .ok s ∧ loadFile tree policyValue path = s.validate) := by
  unfold loadFile
  cases read : tree.readText path with
  | error e => exact .inl ⟨_, rfl, .unreadable read⟩
  | ok text =>
    dsimp only
    cases parsed : parse? text with
    | none => exact .inl ⟨_, rfl, .malformed read parsed⟩
    | some s =>
      dsimp only
      cases overridden : s.override policyValue with
      | ok s' => exact .inr ⟨text, s, s', rfl, parsed, overridden, rfl⟩
      | error e =>
        -- only a variable that is set can be refused
        unfold override at overridden
        split at overridden
        · cases overridden
        · next value given =>
            have refused := map_eq_error.1 overridden
            obtain ⟨f, rfl⟩ := ofText_error refused
            exact .inl ⟨f, rfl, .variable read parsed given refused⟩

/-- No fault is met early where the settings are parsed and the variable is accepted. -/
theorem not_earlierFault {text : String} {parsed s : Settings}
    (read : tree.readText path = .ok text) (settings : parse? text = some parsed)
    (accepted : parsed.override policyValue = .ok s) (f : ConfigFault) :
    ¬ EarlierFault tree policyValue path f := by
  intro earlier
  cases earlier with
  | unreadable failed =>
    rw [read] at failed
    cases failed
  | malformed same none =>
    cases read.symm.trans same
    rw [settings] at none
    cases none
  | «variable» same again given refused =>
    unfold override at accepted
    rw [given] at accepted
    obtain ⟨policy, named, -⟩ := map_eq_ok.1 accepted
    rw [refused] at named
    cases named

/-- A settings file that gives permissions to others is refused for that, unless a fault was met
before. -/
theorem loadFile_of_exposed {bytes : Bytes} {access mode : UInt32} {text : String} {t : Json.Tree}
    (found : tree.find path = .ok (.file bytes access)) (decoded : Utf8.toString? bytes = some text)
    (grammar : Json.Tree.read? none text.toList = some t) (given : GivesMode t mode)
    (exposed : mode &&& othersMask ≠ 0) :
    ∃ f, loadFile tree policyValue path = .error (.config f) ∧
      (EarlierFault tree policyValue path f ∨
        (f = .exposedSecretMode mode ∧ ∀ g, ¬ EarlierFault tree policyValue path g)) := by
  rcases loadFile_cases tree policyValue path with
    ⟨f, refused, earlier⟩ | ⟨text', parsed, s, read, settings, overridden, valid⟩
  · exact ⟨f, refused, .inl earlier⟩
  · have same : s.secretFileMode = mode := by
      obtain ⟨node, content, leads, -, inside, again⟩ := FileTree.readText_eq_ok_iff.1 read
      cases found.symm.trans leads
      cases inside
      cases decoded.symm.trans again
      rw [parse?, grammar, Option.bind_some] at settings
      rw [mode_of_override overridden]
      exact mode_of_ofTree? settings given
    refine ⟨.exposedSecretMode mode, ?_, .inr ⟨rfl, not_earlierFault read settings overridden⟩⟩
    rw [valid, validate, same, if_neg exposed]

end Refusing

/-! ## Accepted settings and secrets -/

/-- No accepted settings expose a secret. Whatever was loaded, writing a secret with its permissions
leaves every place as it was or makes a private file where nothing stood, and the path of a secret
that was written leads to its private file. A settings file that gives permissions to others is
refused for that, unless a fault was met before. -/
theorem accepted_settings_private (tree : FileTree) (policyValue : Option Bytes)
    (named : Option String) :
    (∀ s, load tree policyValue named = .ok s → ∀ (disk : FileTree) (path secret : String),
      (∀ place,
        (writeSecret disk path secret s.secretFileMode).1.get? place = disk.get? place ∨
        (disk.get? place = none ∧ ∃ node, node.IsPrivate ∧
          (writeSecret disk path secret s.secretFileMode).1.get? place = some node)) ∧
      ((writeSecret disk path secret s.secretFileMode).2 = .ok () →
        ∃ mode, mode &&& othersMask = 0 ∧
          (writeSecret disk path secret s.secretFileMode).1.find path =
            .ok (.file (Utf8.ofString secret) mode))) ∧
    (∀ bytes access text t mode, tree.find (source named) = .ok (.file bytes access) →
      Utf8.toString? bytes = some text → Json.Tree.read? none text.toList = some t →
      GivesMode t mode → mode &&& othersMask ≠ 0 →
      ∃ f, load tree policyValue named = .error (.config f) ∧
        (EarlierFault tree policyValue (source named) f ∨
          (f = .exposedSecretMode mode ∧
            ∀ g, ¬ EarlierFault tree policyValue (source named) g))) := by
  constructor
  · intro s loaded disk path secret
    have asked := mode_of_load loaded
    cases outcome : (writeSecret disk path secret s.secretFileMode).2 with
    | error e =>
      refine ⟨fun place => .inl ?_, nofun⟩
      rw [writeSecret_of_error outcome]
    | ok u =>
      obtain ⟨place, granted, names, absent, owned, stores⟩ := private_of_writeSecret asked outcome
      refine ⟨?_, fun _ => ⟨granted, owned, stores.find names⟩⟩
      intro q
      by_cases here : q = place
      · subst here
        exact .inr ⟨absent, _, ⟨_, granted, rfl, owned⟩, stores.present⟩
      · exact .inl (stores.others q here)
  · intro bytes access text t mode found decoded grammar given exposed
    rw [load_of_find found]
    exact loadFile_of_exposed found decoded grammar given exposed

/-- A folder with two settings files. The permissions of the one that is named are its owner's alone
for all their bits above those, and the default file gives others the right to read. -/
def twoSettingsFiles : FileTree where
  nodes := [
    (["own.json"], .file (Utf8.ofString "\x7b\"secret_file_mode\": 33152\x7d") 0o644),
    (["session-launch.json"], .file (Utf8.ofString "[\"strict\", true, 33188]") 0o644)]
  workingFolder := []
  umask := 0o022

/-- What the default file holds. -/
def exposedItems : Json.Tree :=
  .array [.text ("strict".toList.map .char), .flag true, .number ⟨false, [3, 3, 1, 8, 8], [], none⟩]

theorem accepted_settings_private_two_files :
    (load twoSettingsFiles none (some "own.json") = .ok { secretFileMode := 33152 } ∧
      (writeSecret twoSettingsFiles "secret" "sealed" 33152).2 = .ok () ∧
      ∃ mode, mode &&& othersMask = 0 ∧
        (writeSecret twoSettingsFiles "secret" "sealed" 33152).1.find "secret" =
          .ok (.file (Utf8.ofString "sealed") mode)) ∧
    (twoSettingsFiles.find (source none) =
        .ok (.file (Utf8.ofString "[\"strict\", true, 33188]") 0o644) ∧
      Json.Tree.read? none "[\"strict\", true, 33188]".toList = some exposedItems ∧
      GivesMode exposedItems 33188 ∧ (33188 : UInt32) &&& othersMask ≠ 0 ∧
      ∃ f, load twoSettingsFiles none none = .error (.config f) ∧
        (EarlierFault twoSettingsFiles none (source none) f ∨
          (f = .exposedSecretMode 33188 ∧
            ∀ g, ¬ EarlierFault twoSettingsFiles none (source none) g))) := by
  have own : load twoSettingsFiles none (some "own.json") = .ok { secretFileMode := 33152 } := rfl
  have done : (writeSecret twoSettingsFiles "secret" "sealed" 33152).2 = .ok () := rfl
  have found : twoSettingsFiles.find (source none) =
      .ok (.file (Utf8.ofString "[\"strict\", true, 33188]") 0o644) := rfl
  have grammar : Json.Tree.read? none "[\"strict\", true, 33188]".toList = some exposedItems := rfl
  have given : GivesMode exposedItems 33188 := .item rfl
  have exposed : (33188 : UInt32) &&& othersMask ≠ 0 := by decide
  refine ⟨⟨own, done, ?_⟩, found, grammar, given, exposed, ?_⟩
  · exact ((accepted_settings_private _ _ _).1 _ own twoSettingsFiles "secret" "sealed").2 done
  · have decoded := Utf8.toString?_ofString "[\"strict\", true, 33188]"
    exact (accepted_settings_private _ none none).2 _ _ _ _ _ found decoded grammar given exposed

end Settings

end SessionHandoff
