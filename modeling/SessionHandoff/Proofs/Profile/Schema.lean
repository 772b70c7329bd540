import SessionHandoff.Proofs.Outcome
import SessionHandoff.Proofs.Profile.Faults
import SessionHandoff.Proofs.Profile.Wire

/-!
# The schema of written profiles

`Json.IsWireProfile` says which values are written profiles, field by field and without reading them:
what each kind of field takes (`FieldKind.Admits`), and that all twenty fields are there. The strict
policy accepts these values and no others, and the two policies differ in nothing else: what the
strict one accepts the best-effort one decodes alike and without a record, and what the strict one
refuses with is the first record of the best-effort one (`LaunchProfile.strict_accepts_schema`).

A reading looks at the fields only. Values that agree on them are read alike
(`LaunchProfile.reading_congr`), so members that no field names never matter.
-/

set_option autoImplicit false

namespace SessionHandoff

/-! ## What fields take -/

/-- What a field of a kind takes. -/
def FieldKind.Admits : FieldKind → Json → Prop
  | .object, v => ∃ members, v = .object members
  | .text, v => ∃ s, v = .text s
  | .texts, v => ∃ items, v = .array items ∧ ∀ item ∈ items, ∃ s, item = .text s
  | .textObject, v => ∃ members, v = .object members ∧ ∀ m ∈ members, ∃ s, m.2 = .text s
  | .streams, v => ∃ n k, v = .number n ∧ n.signed? = some k ∧ (k = 0 ∨ k = 1 ∨ k = 2)
  | .priority, v => ∃ n k, v = .number n ∧ n.signed? = some k ∧ -2147483648 ≤ k ∧ k < 2147483648
  | .limit, v => ∃ n k, v = .number n ∧ n.unsigned? = some k
  | .flags, v => ∃ items, v = .array items ∧ ∀ item ∈ items, ∃ b, item = .flag b

/-- A value that holds every field of a written profile, each with a content that the field takes:
those of the profile itself, and in its objects those of the context and of the settings. -/
def Json.IsWireProfile (v : Json) : Prop :=
  ∀ field : WireField, ∃ content, field.content? v = some content ∧ field.kind.Admits content

namespace Json

theorem isSome_text? {v : Json} : v.text?.isSome = true ↔ ∃ s, v = .text s := by
  cases v with
  | text s => exact ⟨fun _ => ⟨s, rfl⟩, fun _ => rfl⟩
  | null | flag b | number n | array items | object members =>
    constructor
    · intro h
      cases h
    · rintro ⟨s, ⟨⟩⟩

theorem isSome_flag? {v : Json} : v.flag?.isSome = true ↔ ∃ b, v = .flag b := by
  cases v with
  | flag b => exact ⟨fun _ => ⟨b, rfl⟩, fun _ => rfl⟩
  | null | text s | number n | array items | object members =>
    constructor
    · intro h
      cases h
    · rintro ⟨b, ⟨⟩⟩

end Json

namespace FieldKind

theorem rangeProblem?_eq_none_iff {wanted : Int → Bool} {n : Json.Number} :
    rangeProblem? wanted n = none ↔ ∃ k, n.signed? = some k ∧ wanted k = true := by
  unfold rangeProblem?
  cases n.signed? with
  | none => simp
  | some k => simp

/-- Nothing is wrong with a content exactly if the field takes it. -/
theorem problem?_eq_none_iff {kind : FieldKind} {v : Json} :
    kind.problem? v = none ↔ kind.Admits v := by
  cases kind with
  | object => cases v <;> simp [problem?, Admits]
  | text => cases v <;> simp [problem?, Admits]
  | texts =>
    cases v with
    | array items => simp [problem?, Admits, Json.isSome_text?]
    | null | flag b | text s | number n | object members => simp [problem?, Admits]
  | textObject =>
    cases v with
    | object members => simp [problem?, Admits, Json.isSome_text?]
    | null | flag b | text s | number n | array items => simp [problem?, Admits]
  | streams =>
    cases v with
    | number n => simp [problem?, Admits, rangeProblem?_eq_none_iff, or_assoc]
    | null | flag b | text s | array items | object members => simp [problem?, Admits]
  | priority =>
    cases v with
    | number n => simp [problem?, Admits, rangeProblem?_eq_none_iff]
    | null | flag b | text s | array items | object members => simp [problem?, Admits]
  | limit =>
    cases v with
    | number n => simp [problem?, Admits, Option.isSome_iff_exists]
    | null | flag b | text s | array items | object members => simp [problem?, Admits]
  | flags =>
    cases v with
    | array items => simp [problem?, Admits, List.findIdx?_eq_none_iff, Json.isSome_flag?]
    | null | flag b | text s | number n | object members => simp [problem?, Admits]

end FieldKind

/-- Nothing is wrong with a field exactly if it is there with a content that it takes. -/
theorem WireField.problem?_eq_none_iff {v : Json} {field : WireField} :
    field.problem? v = none ↔
      ∃ content, field.content? v = some content ∧ field.kind.Admits content := by
  unfold problem?
  cases field.content? v with
  | none => simp [FieldKind.problemOf]
  | some content => simp [FieldKind.problemOf, FieldKind.problem?_eq_none_iff]

theorem WireField.mem_readingOrder (field : WireField) : field ∈ readingOrder := by
  cases field <;> decide

/-- A value is read without fault exactly if it is a written profile. -/
theorem LaunchProfile.faults_eq_nil_iff {v : Json} :
    (reading v).faults = [] ↔ v.IsWireProfile := by
  rw [faults_reading, List.flatMap_eq_nil_iff]
  constructor
  · intro none field
    have noFault := none field field.mem_readingOrder
    rw [WireField.faults, Option.toList_eq_nil_iff, Option.map_eq_none_iff] at noFault
    exact WireField.problem?_eq_none_iff.1 noFault
  · intro written field _
    rw [WireField.faults, WireField.problem?_eq_none_iff.2 (written field)]
    rfl

/-! ## Values that agree on the fields -/

/-- Values with the same contents for the fields, and with objects in the same of the two places for
objects; whatever else they hold. -/
structure Json.SameFields (v w : Json) : Prop where
  objects : ∀ field : WireField, field.kind = .object → field.problem? v = field.problem? w
  contents : ∀ field : WireField, field.kind ≠ .object → field.content? v = field.content? w

/-- The fields of the context and of the settings hold no objects with fields of their own. -/
theorem WireField.kind_ne_object (field : WireField) :
    field.scope ≠ .profile → field.kind ≠ .object := by
  cases field <;> decide

/-- The contents of all fields but the two objects, in the object of their scope. -/
theorem Json.SameFields.get?_source {v w : Json} (same : v.SameFields w) {field : WireField}
    {scope : Scope} (leaf : field.kind ≠ .object) (inside : field.scope = scope) :
    (scope.source v).get? field = (scope.source w).get? field := by
  subst inside
  exact same.contents field leaf

/-- A reader looks at nothing but the content of its field. -/
theorem FieldSource.read_congr {s t : FieldSource} {field : WireField}
    (same : s.get? field = t.get? field) {α : Type} (expected : Expectation)
    (convert : Json → Option α) (default : α) :
    s.read field expected convert default = t.read field expected convert default := by
  rw [read, read, same]

theorem SessionContext.reading_congr {s t : FieldSource}
    (same : ∀ field : WireField, field.scope = .context → s.get? field = t.get? field) :
    SessionContext.reading s = SessionContext.reading t := by
  simp only [reading, FieldSource.text, FieldSource.read_congr (same .username rfl),
    FieldSource.read_congr (same .project rfl), FieldSource.read_congr (same .id rfl)]

theorem ProcessConfig.reading_congr {s t : FieldSource}
    (same : ∀ field : WireField, field.scope = .config → s.get? field = t.get? field) :
    ProcessConfig.reading s = ProcessConfig.reading t := by
  simp only [reading, ResourceLimits.reading, FieldSource.textArray, FieldSource.array,
    FieldSource.textObject, FieldSource.object, FieldSource.text, FieldSource.streams,
    FieldSource.priority, FieldSource.integer, FieldSource.limit, FieldSource.natural,
    FieldSource.affinity, FieldSource.read_congr (same .args rfl),
    FieldSource.read_congr (same .environment rfl), FieldSource.read_congr (same .stdInput rfl),
    FieldSource.read_congr (same .streams rfl), FieldSource.read_congr (same .priority rfl),
    FieldSource.read_congr (same .memoryBytes rfl), FieldSource.read_congr (same .stackBytes rfl),
    FieldSource.read_congr (same .userProcesses rfl),
    FieldSource.read_congr (same .cpuSeconds rfl), FieldSource.read_congr (same .nice rfl),
    FieldSource.read_congr (same .openFiles rfl), FieldSource.read_congr (same .cpuAffinity rfl)]

namespace LaunchProfile

/-- What is read of a value, whatever its faults are. -/
theorem value_reading (v : Json) :
    (reading v).value =
      { context := (SessionContext.reading (Scope.context.source v)).value
        password := (FieldSource.text v.members? .password).value
        encryptionKey := (FieldSource.text v.members? .encryptionKey).value
        executable := (FieldSource.text v.members? .executable).value
        config := (ProcessConfig.reading (Scope.config.source v)).value } := by
  simp only [reading, Reading.value_bind, Reading.value_pure, FieldSource.value_object,
    Scope.source]

/-- Values that agree on the fields are read alike. -/
theorem reading_congr {v w : Json} (same : v.SameFields w) : reading v = reading w := by
  have top (field : WireField) (leaf : field.kind ≠ .object) (inside : field.scope = .profile) :
      FieldSource.get? v.members? field = FieldSource.get? w.members? field :=
    same.get?_source leaf inside
  have inner (scope : Scope) (below : scope ≠ .profile) (field : WireField)
      (inside : field.scope = scope) :
      (scope.source v).get? field = (scope.source w).get? field :=
    same.get?_source (field.kind_ne_object (inside ▸ below)) inside
  have context := SessionContext.reading_congr (inner .context (by decide))
  have config := ProcessConfig.reading_congr (inner .config (by decide))
  have value : (reading v).value = (reading w).value := by
    simp only [value_reading, context, config, FieldSource.text,
      FieldSource.read_congr (top .password (by decide) rfl),
      FieldSource.read_congr (top .encryptionKey (by decide) rfl),
      FieldSource.read_congr (top .executable (by decide) rfl)]
  have faults : (reading v).faults = (reading w).faults := by
    have problem (field : WireField) : field.problem? v = field.problem? w := by
      by_cases object : field.kind = .object
      · exact same.objects field object
      · rw [WireField.problem?, WireField.problem?, same.contents field object]
    simp only [faults_reading, problem]
  cases hv : reading v
  cases hw : reading w
  rw [hv, hw] at value faults
  dsimp only at value faults
  rw [value, faults]

end LaunchProfile

/-! ## Members that no field names -/

namespace Json

/-- Dropping members by their keys keeps those whose keys are wanted. -/
theorem member?_filter {wanted : String → Bool} {key : String} (h : wanted key = true)
    (members : List (String × Json)) :
    member? key (members.filter fun m => wanted m.1) = member? key members := by
  unfold member?
  induction members with
  | nil => rfl
  | cons m rest ih =>
    by_cases first : key = m.1
    · rw [List.filter_cons_of_pos (first ▸ h), List.lookup_cons, List.lookup_cons, first]
      simp only [beq_self_eq_true]
    · have skipped : (key == m.1) = false := beq_eq_false_iff_ne.2 first
      rw [List.lookup_cons, skipped, ← ih, List.filter_cons]
      split
      · rw [List.lookup_cons, skipped]
      · rfl

/-- Changing members and keeping their keys changes what is found under a key. -/
theorem member?_map (change : String → Json → Json) (key : String)
    (members : List (String × Json)) :
    member? key (members.map fun m => (m.1, change m.1 m.2)) =
      (member? key members).map (change key) := by
  unfold member?
  induction members with
  | nil => rfl
  | cons m rest ih =>
    rw [List.map_cons, List.lookup_cons, List.lookup_cons]
    by_cases first : key = m.1
    · simp only [first, beq_self_eq_true, Option.map_some]
    · simp only [beq_eq_false_iff_ne.2 first, ih]

end Json

/-- Whether some field of a scope has the key. -/
def Scope.names (scope : Scope) (key : String) : Bool :=
  WireField.readingOrder.any fun field => field.scope == scope && field.key == key

/-- An object with only those of its members that are fields of a scope. -/
def Json.only (scope : Scope) : Json → Json
  | .object members => .object (members.filter fun m => scope.names m.1)
  | v => v

/-- The content of a member of a profile: of the context and of the settings only the fields. -/
def Json.memberOnly (key : String) (v : Json) : Json :=
  if key = WireField.key .context then v.only .context
  else if key = WireField.key .config then v.only .config
  else v

/-- A value without the members that no field names, neither at the top nor in the context nor in
the settings. -/
def Json.withoutOthers (v : Json) : Json :=
  match v.only .profile with
  | .object members => .object (members.map fun m => (m.1, m.2.memberOnly m.1))
  | other => other

theorem WireField.names_key (field : WireField) : field.scope.names field.key = true := by
  cases field <;> decide

theorem Json.members?_only (scope : Scope) (v : Json) :
    (v.only scope).members? =
      v.members?.map fun members => members.filter fun m => scope.names m.1 := by
  cases v <;> rfl

theorem Json.members?_withoutOthers (v : Json) :
    v.withoutOthers.members? =
      (v.only .profile).members?.map fun members =>
        members.map fun m => (m.1, m.2.memberOnly m.1) := by
  cases v <;> rfl

namespace FieldSource

/-- The fields of a scope are found in what is left of an object. -/
theorem get?_only {field : WireField} {scope : Scope} (inside : field.scope = scope) (v : Json) :
    FieldSource.get? (v.only scope).members? field = FieldSource.get? v.members? field := by
  subst inside
  rw [Json.members?_only]
  cases v.members? with
  | none => rfl
  | some members => exact Json.member?_filter field.names_key members

theorem get?_withoutOthers {field : WireField} (inside : field.scope = .profile) (v : Json) :
    FieldSource.get? v.withoutOthers.members? field =
      (FieldSource.get? v.members? field).map (Json.memberOnly field.key) := by
  rw [← get?_only inside v, Json.members?_withoutOthers]
  cases (v.only .profile).members? with
  | none => rfl
  | some members => exact Json.member?_map (fun key v => v.memberOnly key) field.key members

end FieldSource

/-- Dropping members makes no object of what was none, nor the other way round. -/
theorem FieldKind.problem?_memberOnly (key : String) (v : Json) :
    FieldKind.object.problem? (v.memberOnly key) = FieldKind.object.problem? v := by
  unfold Json.memberOnly
  split
  · cases v <;> rfl
  · split
    · cases v <;> rfl
    · rfl

theorem Json.memberOnly_of_leaf {field : WireField} (leaf : field.kind ≠ .object) (v : Json) :
    v.memberOnly field.key = v := by
  have notContext : field.key ≠ WireField.key .context := by
    intro same
    rw [WireField.key_inj.1 same] at leaf
    exact leaf rfl
  have notConfig : field.key ≠ WireField.key .config := by
    intro same
    rw [WireField.key_inj.1 same] at leaf
    exact leaf rfl
  rw [memberOnly, if_neg notContext, if_neg notConfig]

/-- What is left of an object in a profile is the object with its fields. -/
theorem Scope.get?_source_withoutOthers {field : WireField} {scope : Scope} (v : Json)
    (leaf : field.kind ≠ .object) (inside : field.scope = scope) :
    (scope.source v.withoutOthers).get? field = (scope.source v).get? field := by
  cases scope with
  | profile =>
    rw [source, FieldSource.get?_withoutOthers inside, source]
    cases FieldSource.get? v.members? field with
    | none => rfl
    | some content => exact congrArg some (content.memberOnly_of_leaf leaf)
  | context =>
    rw [source, FieldSource.get?_withoutOthers rfl, source]
    cases FieldSource.get? v.members? .context with
    | none => rfl
    | some content =>
      have left : content.memberOnly (WireField.key .context) = content.only .context :=
        if_pos rfl
      simp only [Option.map_some, Option.bind_some, left]
      exact FieldSource.get?_only inside content
  | config =>
    rw [source, FieldSource.get?_withoutOthers rfl, source]
    cases FieldSource.get? v.members? .config with
    | none => rfl
    | some content =>
      have left : content.memberOnly (WireField.key .config) = content.only .config :=
        (if_neg (by decide)).trans (if_pos rfl)
      simp only [Option.map_some, Option.bind_some, left]
      exact FieldSource.get?_only inside content

/-- Without the members that no field names a value agrees with itself on the fields. -/
theorem Json.sameFields_withoutOthers (v : Json) : v.withoutOthers.SameFields v := by
  constructor
  · intro field object
    have top : field.scope = .profile :=
      Classical.byContradiction fun below => field.kind_ne_object below object
    rw [WireField.problem?, WireField.problem?, WireField.content?, WireField.content?, top,
      object]
    show FieldKind.object.problemOf (FieldSource.get? v.withoutOthers.members? field) =
      FieldKind.object.problemOf (FieldSource.get? v.members? field)
    rw [FieldSource.get?_withoutOthers top]
    cases FieldSource.get? v.members? field with
    | none => rfl
    | some content => exact FieldKind.problem?_memberOnly field.key content
  · intro field leaf
    exact Scope.get?_source_withoutOthers v leaf rfl

/-! ## The two policies -/

namespace LaunchProfile

/-- **Strict decoding accepts exactly the schema, and agrees with best-effort decoding.** For every
value:

* The strict policy accepts it exactly if it is a written profile. Members that no field names make
  no difference, under either policy.
* Where the strict policy has a profile, the best-effort one has the same one and no record.
* Where it has an error, the best-effort one has a profile all the same, and its first record has
  the text of the error.
* Asked for a profile of any value, the best-effort one is given. -/
theorem strict_accepts_schema (v : Json) :
    ((∃ p, (ofJson .strict v).result = .ok p) ↔ v.IsWireProfile) ∧
    (∀ policy, ofJson policy v.withoutOthers = ofJson policy v) ∧
    (∀ p, (ofJson .strict v).result = .ok p → ofJson .bestEffort v = ⟨.ok p, []⟩) ∧
    (∀ e, (ofJson .strict v).result = .error e →
      ∃ q rest, ofJson .bestEffort v = ⟨.ok q, ⟨.error, e.message⟩ :: rest⟩) ∧
    ∃ q log, ofJson .bestEffort v = ⟨.ok q, log⟩ ∧ ofAnyJson v = (q, log) := by
  refine ⟨?_, ?_, ?_, ?_, ⟨_, _, rfl, rfl⟩⟩
  · rw [← faults_eq_nil_iff, ofJson, DecodePolicy.conclude]
    cases (reading v).faults with
    | nil => exact ⟨fun _ => rfl, fun _ => ⟨_, rfl⟩⟩
    | cons fault rest =>
      constructor
      · rintro ⟨p, ⟨⟩⟩
      · intro none
        cases none
  · intro policy
    rw [ofJson, reading_congr v.sameFields_withoutOthers]
    rfl
  · intro p accepted
    unfold ofJson DecodePolicy.conclude at accepted ⊢
    dsimp only at accepted ⊢
    cases none : (reading v).faults with
    | nil =>
      rw [none] at accepted
      cases accepted
      rfl
    | cons fault rest =>
      rw [none] at accepted
      cases accepted
  · intro e refused
    unfold ofJson DecodePolicy.conclude at refused ⊢
    dsimp only at refused ⊢
    cases some : (reading v).faults with
    | nil =>
      rw [some] at refused
      cases refused
    | cons fault rest =>
      rw [some] at refused
      cases refused
      exact ⟨_, _, rfl⟩

/-- A written profile with a member that no field names, in front of the others; and a value of two
members, one of them no object where one is wanted. -/
theorem strict_accepts_schema_two_values :
    let written : LaunchProfile := { executable := "/bin/true", config := { args := ["-v"] } }
    let more : Json := .object (("version", .flag true) :: written.toJson.members?.getD [])
    let less : Json := .object [("config", .null), ("password", .text "pw")]
    (more.IsWireProfile ∧ ofJson .bestEffort more = ⟨.ok written, []⟩) ∧
      ¬ less.IsWireProfile ∧
      ∃ rest, (ofJson .bestEffort less).log =
        ⟨.error, "Failed to decode profile.context: field is missing"⟩ :: rest := by
  intro written more less
  obtain ⟨schema, -, agrees, -, -⟩ := strict_accepts_schema more
  obtain ⟨schema', -, -, recorded, -⟩ := strict_accepts_schema less
  have accepted : (ofJson .strict more).result = .ok written :=
    eq_ok_of_toOption (by decide +kernel)
  have refused : (ofJson .strict less).result = .error (.field ⟨.context, .missing⟩) := rfl
  refine ⟨⟨schema.1 ⟨written, accepted⟩, agrees written accepted⟩, ?_, ?_⟩
  · intro isProfile
    obtain ⟨p, found⟩ := schema'.2 isProfile
    rw [refused] at found
    cases found
  · obtain ⟨q, rest, log⟩ := recorded _ refused
    exact ⟨rest, congrArg (·.log) log⟩

end LaunchProfile

end SessionHandoff
