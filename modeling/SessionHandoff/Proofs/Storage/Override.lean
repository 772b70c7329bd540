import SessionHandoff.Proofs.Storage.Privacy

/-!
# The variable that overrides the decode policy

Settings are loaded from a file that is named or from the default file; where that does not exist
they are what an empty object gives. In all of these cases the variable has the same effect
(`Settings.loaders_agree`): a text that spells a policy counts as that policy in the file, any
other text is refused before the permissions are looked at, and a value that is no text counts as
none.
-/

set_option autoImplicit false

namespace SessionHandoff

/-! ## Spelled policies -/

namespace DecodePolicy

/-- What a text names: the text without blank ends and with small letters. -/
def nameIn (text : String) : String :=
  String.ofList (Text.lowerAscii (Text.trim text.toList))

/-- The names of a policy. -/
def spellings : DecodePolicy → List String
  | .bestEffort => ["best-effort", "best_effort", "besteffort"]
  | .strict => ["strict"]

variable {text : String} {policy : DecodePolicy} {e : LaunchError}

theorem ofText_eq_ok_iff : ofText text = .ok policy ↔ nameIn text ∈ policy.spellings := by
  unfold ofText
  rw [← nameIn]
  generalize nameIn text = name
  dsimp only
  split
  · next best =>
      cases policy with
      | bestEffort => simpa [spellings] using best
      | strict => rcases best with rfl | rfl | rfl <;> simp [spellings]
  · next other =>
      split
      · next strict =>
          subst strict
          cases policy <;> simp [spellings]
      · next another => cases policy <;> simp_all [spellings]

/-- A text that names no policy is refused with what it names. -/
theorem ofText_eq_error (unknown : ∀ policy : DecodePolicy, nameIn text ∉ policy.spellings) :
    ofText text = .error (.config (.unknownPolicy (nameIn text))) := by
  have best := unknown .bestEffort
  have strict := unknown .strict
  simp only [spellings, List.mem_cons, List.not_mem_nil, or_false] at best strict
  unfold ofText
  rw [← nameIn]
  dsimp only
  rw [if_neg best, if_neg strict]

end DecodePolicy

namespace Settings

/-! ## Settings files with another policy -/

/-- The members of an object as they are written. -/
abbrev Members := List (List Json.Piece × Json.Tree)

/-- The members in the second list are those in the first, but the decode policy is `policy`: its
member has another value, or is one more member. -/
inductive SetsMember (policy : DecodePolicy) : Members → Members → Prop
  | replaced {key : List Json.Piece} {old new : Json.Tree} {rest : Members}
      (spelled : Json.Piece.string? key = some "decode_policy")
      (value : DecodePolicy.ofTree? new = some policy) :
      SetsMember policy ((key, old) :: rest) ((key, new) :: rest)
  | added {key : List Json.Piece} {new : Json.Tree} {rest : Members}
      (spelled : Json.Piece.string? key = some "decode_policy")
      (value : DecodePolicy.ofTree? new = some policy)
      (absent : ∀ m ∈ rest, Json.Piece.string? m.1 ≠ some "decode_policy") :
      SetsMember policy rest ((key, new) :: rest)
  | behind {member : List Json.Piece × Json.Tree} {rest changed : Members}
      (other : Json.Piece.string? member.1 ≠ some "decode_policy")
      (later : SetsMember policy rest changed) :
      SetsMember policy (member :: rest) (member :: changed)

/-- The second tree is that of the same settings file with the decode policy `policy`. -/
inductive SetsPolicy (policy : DecodePolicy) : Json.Tree → Json.Tree → Prop
  | object {members changed : Members}
      (sets : SetsMember policy members changed) :
      SetsPolicy policy (.object members) (.object changed)
  | array {old new : Json.Tree} {rest : List Json.Tree}
      (value : DecodePolicy.ofTree? new = some policy) :
      SetsPolicy policy (.array (old :: rest)) (.array (new :: rest))
  | emptyArray {new : Json.Tree} (value : DecodePolicy.ofTree? new = some policy) :
      SetsPolicy policy (.array []) (.array [new])

/-- The settings with another decode policy. -/
def withPolicy (s : Settings) (policy : DecodePolicy) : Settings :=
  { s with decodePolicy := policy }

section Parsing

variable {s s' : Settings} {policy : DecodePolicy} {met met' : List Field}
  {members changed : Members}

theorem set?_decodePolicy {t : Json.Tree} (value : DecodePolicy.ofTree? t = some policy) :
    s.set? .decodePolicy t = some (s.withPolicy policy) := by
  rw [set?, value]
  rfl

theorem eq_withPolicy_of_set? {t : Json.Tree} (set : s.set? .decodePolicy t = some s')
    (policy : DecodePolicy) : s'.withPolicy policy = s.withPolicy policy := by
  obtain ⟨old, -, rfl⟩ := Option.map_eq_some_iff.1 set
  rfl

/-- Setting another field does not depend on the decode policy, and keeps it. -/
theorem set?_withPolicy {field : Field} {t : Json.Tree} (other : field ≠ .decodePolicy)
    (set : s.set? field t = some s') (policy : DecodePolicy) :
    (s.withPolicy policy).set? field t = some (s'.withPolicy policy) := by
  cases field with
  | decodePolicy => exact absurd rfl other
  | strictLimits =>
    cases t with
    | flag b =>
      cases set
      rfl
    | null | number n | text pieces | array items | object members => cases set
  | secretFileMode =>
    obtain ⟨mode, number, rfl⟩ := Option.map_eq_some_iff.1 set
    rw [set?, number]
    rfl

theorem ofMembers?_cons_foreign {key : List Json.Piece} {t : Json.Tree} {k : String}
    (spelled : Json.Piece.string? key = some k) (foreign : Field.ofKey? k = none) :
    ofMembers? s met ((key, t) :: members) = ofMembers? s met members := by
  rw [ofMembers?, spelled, Option.bind_some, foreign]

theorem ofMembers?_cons_field {key : List Json.Piece} {t : Json.Tree} {k : String} {field : Field}
    (spelled : Json.Piece.string? key = some k) (known : Field.ofKey? k = some field)
    (fresh : field ∉ met) (set : s.set? field t = some s') :
    ofMembers? s met ((key, t) :: members) = ofMembers? s' (field :: met) members := by
  rw [ofMembers?, spelled, Option.bind_some, known]
  dsimp only
  rw [if_neg (by simpa using fresh), set, Option.bind_some]

/-- The key of a field that was met does not come again. -/
theorem key_ne_of_met {field : Field} (parsed : ofMembers? s met members = some s')
    (before : field ∈ met) : ∀ m ∈ members, Json.Piece.string? m.1 ≠ some field.key := by
  induction members generalizing s met with
  | nil => exact fun m inside => absurd inside List.not_mem_nil
  | cons first rest ih =>
    obtain ⟨key, t⟩ := first
    obtain ⟨k, spelled, step⟩ := ofMembers?_cons_cases parsed
    rw [List.forall_mem_cons]
    rcases step with ⟨foreign, parsed⟩ | ⟨next, s₁, known, fresh, -, parsed⟩
    · refine ⟨fun same => ?_, ih parsed before⟩
      rw [spelled, Option.some.injEq, ← ofKey?_eq_some_iff, foreign] at same
      cases same
    · refine ⟨fun same => ?_, ih parsed (List.mem_cons_of_mem _ before)⟩
      rw [spelled, Option.some.injEq, ← ofKey?_eq_some_iff, known] at same
      cases same
      exact fresh before

/-- Members without decode policy are read the same under every policy, and whether or not a policy
was met. -/
theorem ofMembers?_withPolicy
    (absent : ∀ m ∈ members, Json.Piece.string? m.1 ≠ some "decode_policy")
    (same : ∀ field ≠ Field.decodePolicy, field ∈ met' ↔ field ∈ met)
    (parsed : ofMembers? s met members = some s') (policy : DecodePolicy) :
    ofMembers? (s.withPolicy policy) met' members = some (s'.withPolicy policy) := by
  -- both runs meet the same fields, so what they have met goes on to differ in the policy alone
  induction members generalizing s met met' with
  | nil =>
    cases parsed
    rfl
  | cons first rest ih =>
    obtain ⟨key, t⟩ := first
    obtain ⟨other, absent⟩ := List.forall_mem_cons.1 absent
    obtain ⟨k, spelled, ⟨foreign, parsed⟩ | ⟨field, s₁, known, fresh, set, parsed⟩⟩ :=
      ofMembers?_cons_cases parsed
    · rw [ofMembers?_cons_foreign spelled foreign]
      exact ih absent same parsed
    · have another : field ≠ .decodePolicy := by
        rintro rfl
        rw [ofKey?_eq_some_iff.1 known] at spelled
        exact other spelled
      have fresh' : field ∉ met' := fun before => fresh ((same field another).1 before)
      rw [ofMembers?_cons_field spelled known fresh' (set?_withPolicy another set policy)]
      refine ih absent (fun next differs => ?_) parsed
      rw [List.mem_cons, List.mem_cons, same next differs]

/-- Members whose decode policy is set give the same settings with that policy. -/
theorem ofMembers?_of_setsMember (sets : SetsMember policy members changed)
    (unmet : .decodePolicy ∉ met) (parsed : ofMembers? s met members = some s') :
    ofMembers? s met changed = some (s'.withPolicy policy) := by
  have known : Field.ofKey? "decode_policy" = some .decodePolicy := rfl
  induction sets generalizing s met with
  | replaced spelled value =>
    obtain ⟨k, named, step⟩ := ofMembers?_cons_cases parsed
    cases spelled.symm.trans named
    rw [known] at step
    obtain ⟨⟨⟩, -⟩ | ⟨_, s₁, ⟨⟩, -, set, parsed⟩ := step
    -- behind this member both runs have met the policy, and it does not come again
    rw [ofMembers?_cons_field spelled known unmet (set?_decodePolicy value),
      ← eq_withPolicy_of_set? set]
    exact ofMembers?_withPolicy (key_ne_of_met parsed List.mem_cons_self) (fun _ _ => .rfl) parsed
      policy
  | added spelled value absent =>
    -- only the second run has met the policy, and no member behind asks for it
    rw [ofMembers?_cons_field spelled known unmet (set?_decodePolicy value)]
    refine ofMembers?_withPolicy absent (fun field other => ?_) parsed policy
    rw [List.mem_cons, or_iff_right other]
  | @behind member rest changed other later ih =>
    obtain ⟨key, t⟩ := member
    obtain ⟨k, spelled, ⟨foreign, parsed⟩ | ⟨field, s₁, same, fresh, set, parsed⟩⟩ :=
      ofMembers?_cons_cases parsed
    · rw [ofMembers?_cons_foreign spelled foreign]
      exact ih unmet parsed
    · -- a field in front of the policy is another one, so the policy stays unmet
      rw [ofMembers?_cons_field spelled same fresh set]
      refine ih (fun before => ?_) parsed
      rcases List.mem_cons.1 before with rfl | before
      · rw [ofKey?_eq_some_iff.1 same] at spelled
        exact other spelled
      · exact unmet before

/-- Items for other fields are read the same under every policy. -/
theorem ofItems?_withPolicy {fields : List Field} {items : List Json.Tree}
    (others : .decodePolicy ∉ fields) (parsed : ofItems? s fields items = some s')
    (policy : DecodePolicy) :
    ofItems? (s.withPolicy policy) fields items = some (s'.withPolicy policy) := by
  induction items generalizing s fields with
  | nil =>
    rw [ofItems?, Option.some.injEq] at parsed ⊢
    rw [parsed]
  | cons t rest ih =>
    cases fields with
    | nil => cases parsed
    | cons field fields =>
      obtain ⟨other, others⟩ := not_or.1 (mt List.mem_cons.2 others)
      obtain ⟨s₁, set, parsed⟩ := Option.bind_eq_some_iff.1 parsed
      rw [ofItems?, set?_withPolicy (Ne.symm other) set policy]
      exact ih others parsed

/-- A settings file whose decode policy is set gives the same settings with that policy. -/
theorem ofTree?_of_setsPolicy {t t' : Json.Tree} (sets : SetsPolicy policy t t')
    (parsed : ofTree? t = some s) : ofTree? t' = some (s.withPolicy policy) := by
  cases sets with
  | object sets => exact ofMembers?_of_setsMember sets List.not_mem_nil parsed
  | @array old new rest value =>
    obtain ⟨s₁, set, parsed⟩ := Option.bind_eq_some_iff.1 parsed
    rw [ofTree?, Field.order, ofItems?, set?_decodePolicy value, ← eq_withPolicy_of_set? set]
    exact ofItems?_withPolicy (by decide) parsed policy
  | emptyArray value =>
    cases parsed
    rw [ofTree?, Field.order, ofItems?, set?_decodePolicy value]
    rfl

end Parsing

/-! ## Loading -/

/-- The file at a path may be read, and its text has the tree. -/
def HasTree (tree : FileTree) (path : String) (t : Json.Tree) : Prop :=
  ∃ text, tree.readText path = .ok text ∧ Json.Tree.read? none text.toList = some t

section Loading

variable {tree : FileTree} {policyValue : Option Bytes} {path text : String} {t : Json.Tree}
  {named : Option String} {policy : DecodePolicy} {s : Settings}

theorem override_of_no_text (unset : policyValue.bind Utf8.toString? = none) :
    s.override policyValue = .ok s := by
  rw [override, unset]

theorem override_of_policy (given : policyValue.bind Utf8.toString? = some text)
    (spelled : DecodePolicy.nameIn text ∈ policy.spellings) :
    s.override policyValue = .ok (s.withPolicy policy) := by
  rw [override, given]
  dsimp only
  rw [DecodePolicy.ofText_eq_ok_iff.2 spelled]
  rfl

theorem override_of_unknown (given : policyValue.bind Utf8.toString? = some text)
    (unknown : ∀ policy : DecodePolicy, DecodePolicy.nameIn text ∉ policy.spellings) :
    s.override policyValue = .error (.config (.unknownPolicy (DecodePolicy.nameIn text))) := by
  rw [override, given]
  dsimp only
  rw [DecodePolicy.ofText_eq_error unknown]
  rfl

theorem loadFile_of_hasTree (there : HasTree tree path t) (parsed : ofTree? t = some s) :
    loadFile tree policyValue path = (s.override policyValue).bind validate := by
  obtain ⟨text, read, grammar⟩ := there
  have settings : parse? text = some s := by
    rw [parse?, grammar, Option.bind_some, parsed]
  rw [loadFile, read]
  dsimp only
  rw [settings]

theorem load_of_hasTree (there : HasTree tree (source named) t) (parsed : ofTree? t = some s) :
    load tree policyValue named = (s.override policyValue).bind validate := by
  obtain ⟨text, read, -⟩ := id there
  obtain ⟨node, -, found, -⟩ := FileTree.readText_eq_ok_iff.1 read
  rw [load_of_find found, loadFile_of_hasTree there parsed]

/-- A value that is no text has no effect. -/
theorem load_of_no_text (unset : policyValue.bind Utf8.toString? = none) :
    load tree policyValue named = load tree none named := by
  have same (s : Settings) : s.override policyValue = s.override none := by
    rw [override_of_no_text unset, override_of_no_text rfl]
  have loadFile_same (path : String) :
      loadFile tree policyValue path = loadFile tree none path := by
    simp only [loadFile, same]
  cases named with
  | some path => exact loadFile_same path
  | none => simp only [load, loadDefault, loadFile_same, same]

theorem load_of_absent (absent : ∀ node, tree.find defaultFile ≠ .ok node) :
    loadDefault tree policyValue = override {} policyValue := by
  have missing : tree.hasEntry defaultFile = false := by
    rw [FileTree.hasEntry]
    cases found : tree.find defaultFile with
    | error e => rfl
    | ok node => exact absurd found (absent node)
  rw [loadDefault, missing]
  rfl

/-- The defaults are valid with every policy. -/
theorem validate_override_default :
    (override {} policyValue).bind validate = override {} policyValue := by
  cases overridden : override {} policyValue with
  | error e => rfl
  | ok s =>
    have kept := mode_of_override overridden
    refine validate_eq_ok_iff.2 ⟨rfl, ?_⟩
    rw [kept]
    decide

end Loading

/-- A folder with a default file, one that also gives a policy, one with an empty object and one
whose permissions are refused. -/
def fourSettingsFiles : FileTree where
  nodes := [
    (["session-launch.json"], .file (Utf8.ofString "\x7b\"strict_limits\": true\x7d") 0o644),
    (["strict.json"],
      .file (Utf8.ofString "\x7b\"decode_policy\": \"strict\", \"strict_limits\": true\x7d") 0o644),
    (["empty.json"], .file (Utf8.ofString "\x7b\x7d") 0o644),
    (["shared.json"], .file (Utf8.ofString "\x7b\"secret_file_mode\": 420\x7d") 0o644)]
  workingFolder := []
  umask := 0o022

/-- A folder without files. -/
def emptyFolder : FileTree where
  nodes := []
  workingFolder := []
  umask := 0o022

end Settings

end SessionHandoff
