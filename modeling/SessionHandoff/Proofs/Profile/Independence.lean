import SessionHandoff.Proofs.Profile.Schema

/-!
# Fields are read independently

What a profile has for a field is what the content of this field means, and the default of its kind
where the field is missing or its content means nothing (`LaunchProfile.fieldValue_reading`). So no
other part of a value has an influence on it. A content means something exactly if the field takes
it (`FieldKind.isSome_read?`), and this is also when it has no fault: the faults are one for each
field that is left, in the order of reading (`LaunchProfile.mem_faults_iff`,
`LaunchProfile.faults_sublist`).

A value whose texts are made empty has the same faults (`LaunchProfile.faults_blank`), hence the
wordings tell nothing of what texts hold. `LaunchProfile.fields_read_independently` gathers this.
-/

set_option autoImplicit false

namespace SessionHandoff

/-! ## What fields hold -/

/-- What a profile has for a field. -/
inductive FieldValue where
  /-- An object has nothing but the fields in it. -/
  | object
  | text (s : String)
  | texts (items : List String)
  | variables (e : Environment)
  | streams (b : StreamBehavior)
  | priority (n : Int32)
  | limit (n : Option UInt64)
  | flags (items : List Bool)
deriving DecidableEq

/-- What the profile has for the field. -/
def LaunchProfile.fieldValue (p : LaunchProfile) : WireField → FieldValue
  | .context | .config => .object
  | .password => .text p.password
  | .encryptionKey => .text p.encryptionKey
  | .executable => .text p.executable
  | .username => .text p.context.username
  | .project => .text p.context.scope.project
  | .id => .text p.context.scope.id
  | .args => .texts p.config.args
  | .environment => .variables p.config.environment
  | .stdInput => .text p.config.stdInput
  | .streams => .streams p.config.streams
  | .priority => .priority p.config.limits.priority
  | .memoryBytes => .limit p.config.limits.memoryBytes
  | .stackBytes => .limit p.config.limits.stackBytes
  | .userProcesses => .limit p.config.limits.userProcesses
  | .cpuSeconds => .limit p.config.limits.cpuSeconds
  | .nice => .limit p.config.limits.nice
  | .openFiles => .limit p.config.limits.openFiles
  | .cpuAffinity => .flags p.config.limits.cpuAffinity

namespace FieldKind

/-- What stands in for a field that cannot be read. -/
def default : FieldKind → FieldValue
  | .object => .object
  | .text => .text ""
  | .texts => .texts []
  | .textObject => .variables (.ofList [])
  | .streams => .streams .inherit
  | .priority => .priority 0
  | .limit => .limit none
  | .flags => .flags []

/-- What a content means to a field, if it means anything. -/
def read? : FieldKind → Json → Option FieldValue
  | .object, v => v.members?.map fun _ => .object
  | .text, v => v.text?.map .text
  | .texts, v => (v.items?.bind (·.mapM Json.text?)).map .texts
  | .textObject, v =>
    (v.members?.bind (·.mapM fun e => e.2.text?.map (e.1, ·))).map fun entries =>
      .variables (.ofList entries)
  | .streams, v =>
    ((v.number?.bind Json.Number.signed?).bind StreamBehavior.ofWire?).map .streams
  | .priority, v =>
    (v.number?.bind Json.Number.signed?).bind fun n =>
      if -2147483648 ≤ n ∧ n < 2147483648 then some (.priority (Int32.ofInt n)) else none
  | .limit, v => (v.number?.bind Json.Number.unsigned?).map fun n => .limit (limitOfWire n)
  | .flags, v => (v.items?.bind (·.mapM Json.flag?)).map .flags

/-- What a field has that has a content or is missing. -/
def decode (kind : FieldKind) (content : Option Json) : FieldValue :=
  (content.bind kind.read?).getD kind.default

theorem isSome_ofWire? {n : Int} :
    (StreamBehavior.ofWire? n).isSome = true ↔ n = 0 ∨ n = 1 ∨ n = 2 := by
  rw [Option.isSome_iff_exists]
  simp only [StreamBehavior.ofWire?_eq_some_iff]
  constructor
  · rintro ⟨b, rfl⟩
    cases b with
    | inherit => exact .inl rfl
    | capture => exact .inr (.inl rfl)
    | discard => exact .inr (.inr rfl)
  · rintro (rfl | rfl | rfl)
    · exact ⟨.inherit, rfl⟩
    · exact ⟨.capture, rfl⟩
    · exact ⟨.discard, rfl⟩

/-- A content means something to a field exactly if the field takes it. -/
theorem isSome_read? {kind : FieldKind} {v : Json} :
    (kind.read? v).isSome = true ↔ kind.Admits v := by
  cases kind with
  | object => cases v <;> simp [read?, Admits, Json.members?]
  | text => cases v <;> simp [read?, Admits, Json.text?]
  | texts =>
    cases v with
    | array items => simp [read?, Admits, Json.items?, isSome_mapM, Json.isSome_text?]
    | null | flag b | text s | number n | object members => simp [read?, Admits, Json.items?]
  | textObject =>
    cases v with
    | object members => simp [read?, Admits, Json.members?, isSome_mapM, Json.isSome_text?]
    | null | flag b | text s | number n | array items => simp [read?, Admits, Json.members?]
  | streams =>
    cases v with
    | number n =>
      cases whole : n.signed? with
      | none => simp [read?, Admits, Json.number?, whole]
      | some k => simp [read?, Admits, Json.number?, whole, isSome_ofWire?]
    | null | flag b | text s | array items | object members => simp [read?, Admits, Json.number?]
  | priority =>
    cases v with
    | number n =>
      cases whole : n.signed? with
      | none => simp [read?, Admits, Json.number?, whole]
      | some k => simp [read?, Admits, Json.number?, whole]
    | null | flag b | text s | array items | object members => simp [read?, Admits, Json.number?]
  | limit =>
    cases v with
    | number n => simp [read?, Admits, Json.number?, Option.isSome_iff_exists]
    | null | flag b | text s | array items | object members => simp [read?, Admits, Json.number?]
  | flags =>
    cases v with
    | array items => simp [read?, Admits, Json.items?, isSome_mapM, Json.isSome_flag?]
    | null | flag b | text s | number n | object members => simp [read?, Admits, Json.items?]

end FieldKind

/-! ## What readers hand out -/

namespace FieldSource

variable (source : FieldSource) (field : WireField)

/-- A reader hands out what it made of the content, or the default. -/
theorem value_read {α : Type} (expected : Expectation) (convert : Json → Option α) (default : α) :
    (source.read field expected convert default).value =
      ((source.get? field).bind convert).getD default := by
  unfold read
  cases source.get? field with
  | none => rfl
  | some v =>
    dsimp only [Option.bind_some]
    cases convert v with
    | none => rfl
    | some a => rfl

theorem value_text :
    FieldValue.text (source.text field).value = FieldKind.text.decode (source.get? field) := by
  rw [text, value_read, FieldKind.decode]
  cases source.get? field with
  | none => rfl
  | some v => cases v <;> rfl

theorem value_limit :
    FieldValue.limit (source.limit field).value = FieldKind.limit.decode (source.get? field) := by
  rw [limit, natural, Reading.value_bind, Reading.value_pure, value_read, FieldKind.decode]
  cases source.get? field with
  | none => rfl
  | some v =>
    cases v with
    | number n =>
      simp only [FieldKind.read?, Json.number?, Option.bind_some]
      cases n.unsigned? with
      | none => rfl
      | some k => rfl
    | null | flag b | text s | array items | object members => rfl

theorem value_textArray :
    FieldValue.texts (source.textArray field).value =
      FieldKind.texts.decode (source.get? field) := by
  rw [textArray, array, Reading.value_bind, value_read, FieldKind.decode]
  cases source.get? field with
  | none => rfl
  | some v =>
    cases v with
    | array items =>
      simp only [FieldKind.read?, Json.items?, Option.bind_some, Option.getD_some]
      cases items.mapM Json.text? with
      | none => rfl
      | some texts => rfl
    | null | flag b | text s | number n | object members => rfl

theorem value_textObject :
    FieldValue.variables (.ofList (source.textObject field).value) =
      FieldKind.textObject.decode (source.get? field) := by
  rw [textObject, object, Reading.value_bind, value_read, FieldKind.decode]
  cases source.get? field with
  | none => rfl
  | some v =>
    cases v with
    | object members =>
      simp only [FieldKind.read?, Json.members?, Option.map_some, Option.bind_some,
        Option.getD_some]
      cases members.mapM fun e : String × Json => e.2.text?.map (e.1, ·) with
      | none => rfl
      | some entries => rfl
    | null | flag b | text s | number n | array items => rfl

theorem value_streams :
    FieldValue.streams source.streams.value =
      FieldKind.streams.decode (source.get? .streams) := by
  rw [streams, integer, Reading.value_bind, value_read, FieldKind.decode]
  cases source.get? .streams with
  | none => rfl
  | some v =>
    cases v with
    | number n =>
      simp only [FieldKind.read?, Json.number?, Option.bind_some]
      cases n.signed? with
      | none => rfl
      | some k =>
        dsimp only [Option.bind_some, Option.getD_some]
        cases StreamBehavior.ofWire? k with
        | none => rfl
        | some b => rfl
    | null | flag b | text s | array items | object members => rfl

theorem value_priority :
    FieldValue.priority source.priority.value =
      FieldKind.priority.decode (source.get? .priority) := by
  rw [priority, integer, Reading.value_bind, value_read, FieldKind.decode]
  -- both sides judge the integer that was read
  have judged : (source.get? .priority).bind FieldKind.priority.read? =
      ((source.get? .priority).bind fun v => v.number?.bind Json.Number.signed?).bind fun n =>
        if -2147483648 ≤ n ∧ n < 2147483648 then some (.priority (Int32.ofInt n)) else none :=
    (Option.bind_assoc _ _ _).symm
  rw [judged]
  cases (source.get? .priority).bind fun v => v.number?.bind Json.Number.signed? with
  | none => rfl
  | some n =>
    dsimp only [Option.bind_some, Option.getD_some]
    split
    · rfl
    · rfl

theorem toOption_affinityOfItems (index : Nat) (items : List Json) :
    (affinityOfItems.go index items).toOption = items.mapM Json.flag? := by
  induction items generalizing index with
  | nil => rfl
  | cons item rest ih =>
    rw [affinityOfItems.go, List.mapM_cons, ← ih (index + 1)]
    cases item.flag? with
    | none => rfl
    | some b =>
      cases affinityOfItems.go (index + 1) rest with
      | error i => rfl
      | ok flags => rfl

theorem value_affinity :
    FieldValue.flags source.affinity.value =
      FieldKind.flags.decode (source.get? .cpuAffinity) := by
  rw [affinity, array, Reading.value_bind, value_read, FieldKind.decode]
  cases source.get? .cpuAffinity with
  | none => rfl
  | some v =>
    cases v with
    | array items =>
      simp only [FieldKind.read?, Json.items?, Option.bind_some, Option.getD_some,
        ← toOption_affinityOfItems 0 items, affinityOfItems]
      cases affinityOfItems.go 0 items with
      | error i => rfl
      | ok flags => rfl
    | null | flag b | text s | number n | object members => rfl

end FieldSource

/-- An object stays one whatever stands in it. -/
theorem FieldKind.decode_object (content : Option Json) :
    FieldKind.object.decode content = .object := by
  unfold decode
  cases content with
  | none => rfl
  | some v => cases v <;> rfl

/-- Without a content that the field takes there is the default. -/
theorem FieldKind.decode_of_not_admits {kind : FieldKind} {content : Option Json}
    (malformed : ∀ v, content = some v → ¬ kind.Admits v) : kind.decode content = kind.default := by
  unfold decode
  cases content with
  | none => rfl
  | some v =>
    have meaningless : kind.read? v = none := by
      rw [← Option.not_isSome_iff_eq_none, isSome_read?]
      exact malformed v rfl
    rw [Option.bind_some, meaningless, Option.getD_none]

namespace LaunchProfile

/-- What a profile that was read has for a field is decided by the content of the field. -/
theorem fieldValue_reading (v : Json) (field : WireField) :
    (reading v).value.fieldValue field = field.kind.decode (field.content? v) := by
  rw [value_reading]
  cases field with
  | context | config => exact (FieldKind.decode_object _).symm
  | password | encryptionKey | executable => exact FieldSource.value_text _ _
  | username | project | id => exact FieldSource.value_text _ _
  | args => exact FieldSource.value_textArray _ _
  | environment => exact FieldSource.value_textObject _ _
  | stdInput => exact FieldSource.value_text _ _
  | streams => exact FieldSource.value_streams _
  | priority => exact FieldSource.value_priority _
  | memoryBytes | stackBytes | userProcesses | cpuSeconds | nice | openFiles =>
    exact FieldSource.value_limit _ _
  | cpuAffinity => exact FieldSource.value_affinity _

theorem fieldValue_default (field : WireField) :
    ({} : LaunchProfile).fieldValue field = field.kind.default := by
  cases field <;> rfl

/-! ## One fault for each field -/

/-- A fault was met exactly if it is what is wrong with its field. -/
theorem mem_faults_iff {v : Json} {fault : FieldFault} :
    fault ∈ (reading v).faults ↔ fault.field.problem? v = some fault.problem := by
  obtain ⟨field, problem⟩ := fault
  rw [faults_reading, List.mem_flatMap]
  constructor
  · rintro ⟨other, -, met⟩
    obtain ⟨found, wrong, same⟩ := Option.map_eq_some_iff.1 (Option.mem_toList.1 met)
    cases same
    exact wrong
  · intro wrong
    refine ⟨field, field.mem_readingOrder, ?_⟩
    exact Option.mem_toList.2 (Option.map_eq_some_iff.2 ⟨problem, wrong, rfl⟩)

/-- Taking for each field of an order its fault, if it has one, keeps the order. -/
theorem faults_sublist_order (problem : WireField → Option FieldProblem) (order : List WireField) :
    ((order.flatMap fun field => field.faults (problem field)).map FieldFault.field).Sublist
      order := by
  induction order with
  | nil => exact .slnil
  | cons field rest ih =>
    rw [List.flatMap_cons, WireField.faults]
    cases problem field with
    | none => exact ih.cons field
    | some wrong => exact ih.cons_cons field

/-- The fields at fault stand in the order of reading, each once. -/
theorem faults_sublist (v : Json) :
    ((reading v).faults.map FieldFault.field).Sublist WireField.readingOrder := by
  rw [faults_reading]
  exact faults_sublist_order (WireField.problem? v) WireField.readingOrder

/-- Some fault of a field was met exactly if it has no content that it takes. -/
theorem exists_fault_iff {v : Json} {field : WireField} :
    (∃ problem, ⟨field, problem⟩ ∈ (reading v).faults) ↔
      ¬ ∃ content, field.content? v = some content ∧ field.kind.Admits content := by
  rw [← WireField.problem?_eq_none_iff, ← ne_eq, Option.ne_none_iff_exists']
  simp only [mem_faults_iff]

end LaunchProfile

/-- No content is a missing one. -/
theorem FieldKind.problem?_ne_missing (kind : FieldKind) (v : Json) :
    kind.problem? v ≠ some .missing := by
  have range (wanted : Int → Bool) (n : Json.Number) : rangeProblem? wanted n ≠ some .missing := by
    unfold rangeProblem?
    cases n.signed? with
    | none => nofun
    | some k =>
      dsimp only
      split
      · nofun
      · nofun
  cases kind with
  | object | text => cases v <;> nofun
  | texts =>
    cases v with
    | array items =>
      unfold problem?
      dsimp only
      split <;> nofun
    | null | flag b | number n | text s | object members => nofun
  | textObject =>
    cases v with
    | object members =>
      unfold problem?
      dsimp only
      split <;> nofun
    | null | flag b | number n | text s | array items => nofun
  | streams | priority =>
    cases v with
    | number n => exact range _ n
    | null | flag b | text s | array items | object members => nofun
  | limit =>
    cases v with
    | number n =>
      unfold problem?
      dsimp only
      split <;> nofun
    | null | flag b | text s | array items | object members => nofun
  | flags =>
    cases v with
    | array items =>
      unfold problem?
      dsimp only
      cases items.findIdx? (·.flag?.isNone) with
      | none => nofun
      | some i => nofun
    | null | flag b | number n | text s | object members => nofun

theorem WireField.problem?_eq_missing_iff {v : Json} {field : WireField} :
    field.problem? v = some .missing ↔ field.content? v = none := by
  unfold problem?
  cases field.content? v with
  | none => exact ⟨fun _ => rfl, fun _ => rfl⟩
  | some content =>
    constructor
    · intro missing
      exact absurd missing (field.kind.problem?_ne_missing content)
    · rintro ⟨⟩

/-- The first item that is no flag is told. -/
theorem FieldKind.flags_problem? {items : List Json} {index : Nat} {item : Json}
    (here : items[index]? = some item) (noFlag : ∀ b, item ≠ .flag b)
    (before : ∀ i < index, ∃ b, items[i]? = some (.flag b)) :
    FieldKind.flags.problem? (.array items) = some (.notFlag index) := by
  obtain ⟨bound, found⟩ := List.getElem?_eq_some_iff.1 here
  have least : items.findIdx? (·.flag?.isNone) = some index := by
    rw [List.findIdx?_eq_some_iff_getElem]
    refine ⟨bound, ?_, ?_⟩
    · rw [found, ← Option.not_isSome, Bool.not_eq_true', ← Bool.not_eq_true, Json.isSome_flag?]
      rintro ⟨b, same⟩
      exact noFlag b same
    · intro i earlier
      obtain ⟨b, flag⟩ := before i earlier
      obtain ⟨_, same⟩ := List.getElem?_eq_some_iff.1 flag
      rw [same]
      nofun
  exact congrArg (Option.map FieldProblem.notFlag) least

/-! ## Texts without content -/

mutual

/-- The value with every text in it made empty, at any depth. The keys of objects stay. -/
def Json.blank : Json → Json
  | .null => .null
  | .flag b => .flag b
  | .number n => .number n
  | .text _ => .text ""
  | .array items => .array (Json.blankItems items)
  | .object members => .object (Json.blankMembers members)

/-- All items with their texts made empty. -/
def Json.blankItems : List Json → List Json
  | [] => []
  | v :: rest => v.blank :: Json.blankItems rest

/-- The values of all members with their texts made empty. -/
def Json.blankMembers : List (String × Json) → List (String × Json)
  | [] => []
  | (key, v) :: rest => (key, v.blank) :: Json.blankMembers rest

end

namespace Json

theorem blankItems_eq (items : List Json) : blankItems items = items.map blank := by
  induction items with
  | nil => rfl
  | cons v rest ih => rw [blankItems, ih, List.map_cons]

theorem blankMembers_eq (members : List (String × Json)) :
    blankMembers members = members.map fun m => (m.1, m.2.blank) := by
  induction members with
  | nil => rfl
  | cons m rest ih => rw [blankMembers, ih, List.map_cons]

theorem members?_blank (v : Json) :
    v.blank.members? = v.members?.map fun members => members.map fun m => (m.1, m.2.blank) := by
  cases v with
  | object members => exact congrArg some (blankMembers_eq members)
  | null | flag b | number n | text s | array items => rfl

theorem isSome_text?_blank (v : Json) : v.blank.text?.isSome = v.text?.isSome := by
  cases v <;> rfl

theorem isNone_flag?_blank (v : Json) : v.blank.flag?.isNone = v.flag?.isNone := by
  cases v <;> rfl

end Json

theorem FieldSource.get?_blank (v : Json) (field : WireField) :
    FieldSource.get? v.blank.members? field =
      (FieldSource.get? v.members? field).map Json.blank := by
  rw [Json.members?_blank]
  cases v.members? with
  | none => rfl
  | some members => exact Json.member?_map (fun _ content => content.blank) field.key members

/-- A field of a value with blank texts has the content that it had, with blank texts. -/
theorem WireField.content?_blank (v : Json) (field : WireField) :
    field.content? v.blank = (field.content? v).map Json.blank := by
  -- the two inner objects are looked up first
  have inner (object : WireField) :
      FieldSource.get? ((FieldSource.get? v.blank.members? object).bind Json.members?) field =
        (FieldSource.get? ((FieldSource.get? v.members? object).bind Json.members?) field).map
          Json.blank := by
    rw [FieldSource.get?_blank]
    cases FieldSource.get? v.members? object with
    | none => rfl
    | some content => exact FieldSource.get?_blank content field
  unfold content?
  cases field.scope with
  | profile => exact FieldSource.get?_blank v field
  | context => exact inner .context
  | config => exact inner .config

/-- What is wrong with a content does not depend on what its texts hold. -/
theorem FieldKind.problem?_blank (kind : FieldKind) (v : Json) :
    kind.problem? v.blank = kind.problem? v := by
  cases kind with
  | object => cases v <;> rfl
  | text => cases v <;> rfl
  | texts =>
    cases v with
    | array items =>
      simp only [Json.blank, problem?, Json.blankItems_eq, List.all_map, Function.comp_def,
        Json.isSome_text?_blank]
    | null | flag b | number n | text s | object members => rfl
  | textObject =>
    cases v with
    | object members =>
      simp only [Json.blank, problem?, Json.blankMembers_eq, List.all_map, Function.comp_def,
        Json.isSome_text?_blank]
    | null | flag b | number n | text s | array items => rfl
  | streams => cases v <;> rfl
  | priority => cases v <;> rfl
  | limit => cases v <;> rfl
  | flags =>
    cases v with
    | array items =>
      simp only [Json.blank, problem?, Json.blankItems_eq, List.findIdx?_map, Function.comp_def,
        Json.isNone_flag?_blank]
    | null | flag b | number n | text s | object members => rfl

namespace LaunchProfile

/-- Faults do not depend on what texts hold. -/
theorem faults_blank (v : Json) : (reading v.blank).faults = (reading v).faults := by
  have same (field : WireField) : field.problem? v.blank = field.problem? v := by
    rw [WireField.problem?, WireField.problem?, WireField.content?_blank]
    cases field.content? v with
    | none => rfl
    | some content => exact field.kind.problem?_blank content
  simp only [faults_reading, same]

/-- **Fields are read independently, and faults are reported exactly.** For every value, the
best-effort policy has the profile of the reading and records the faults of the reading, of which is
true:

* What the profile has for a field is the same for all values with the same content for that field,
  and is the default where the field is missing or does not take its content.
* There is a fault of a field exactly in the latter case. It says that the field is missing exactly
  if the field is.
* The faults stand in the order of reading: first the fields of the profile, then those of the
  context, then those of the settings, and none twice.
* The first item of an affinity that is no flag is told by its index.
* Values that differ in the contents of texts only have faults with the same wording. -/
theorem fields_read_independently (v : Json) :
    ofJson .bestEffort v =
      ⟨.ok (reading v).value, (reading v).faults.map FieldFault.record⟩ ∧
    (∀ (w : Json) (field : WireField), field.content? v = field.content? w →
      (reading v).value.fieldValue field = (reading w).value.fieldValue field) ∧
    (∀ field : WireField,
      (¬ ∃ content, field.content? v = some content ∧ field.kind.Admits content) →
        (reading v).value.fieldValue field = ({} : LaunchProfile).fieldValue field) ∧
    (∀ field : WireField, (∃ problem, ⟨field, problem⟩ ∈ (reading v).faults) ↔
      ¬ ∃ content, field.content? v = some content ∧ field.kind.Admits content) ∧
    (∀ field : WireField, ⟨field, .missing⟩ ∈ (reading v).faults ↔ field.content? v = none) ∧
    (((reading v).faults.map FieldFault.field).Sublist WireField.readingOrder ∧
      WireField.readingOrder.map WireField.scope =
        List.replicate 5 .profile ++ List.replicate 3 .context ++ List.replicate 12 .config ∧
      ((reading v).faults.map fun fault =>
        (fault.field.scope.label, fault.field.key)).Nodup) ∧
    (∀ items index item, WireField.cpuAffinity.content? v = some (.array items) →
      items[index]? = some item → (∀ b, item ≠ .flag b) →
      (∀ i < index, ∃ b, items[i]? = some (.flag b)) →
        ⟨.cpuAffinity, .notFlag index⟩ ∈ (reading v).faults) ∧
    ∀ w : Json, v.blank = w.blank →
      (reading v).faults.map FieldFault.message = (reading w).faults.map FieldFault.message := by
  refine ⟨rfl, ?_, ?_, fun _ => exists_fault_iff, ?_, ⟨faults_sublist v, rfl, ?_⟩, ?_, ?_⟩
  · intro w field same
    rw [fieldValue_reading, fieldValue_reading, same]
  · intro field malformed
    rw [fieldValue_reading, fieldValue_default]
    apply FieldKind.decode_of_not_admits
    intro content found admitted
    exact malformed ⟨content, found, admitted⟩
  · intro field
    rw [mem_faults_iff]
    exact WireField.problem?_eq_missing_iff
  · -- the fields at fault are some of all fields, and these have different labels
    have all : (WireField.readingOrder.map fun field => (field.scope.label, field.key)).Nodup := by
      decide
    have some := (faults_sublist v).map fun field => (field.scope.label, field.key)
    rw [List.map_map] at some
    exact all.sublist some
  · intro items index item content here noFlag before
    rw [mem_faults_iff, WireField.problem?, content]
    exact FieldKind.flags_problem? here noFlag before
  · intro w same
    rw [← faults_blank v, ← faults_blank w, same]

/-- A value with an affinity that has two items which are no flags, one with other texts, and one
that agrees with the first on the input only. -/
theorem fields_read_independently_three_values :
    let affinity (s : String) : Json := .array [.flag true, .null, .text s]
    let settings (s input : String) : Json :=
      .object [("cpuAffinity", affinity s), ("stdInput", .text input)]
    let first : Json := .object [("config", settings "x" "input"), ("password", .text "pw")]
    let second : Json := .object [("config", settings "" "other"), ("password", .text "")]
    let third : Json := .object [("config", .object [("stdInput", .text "input")])]
    (WireField.stdInput.content? first = WireField.stdInput.content? third ∧
      (reading first).value.fieldValue .stdInput = (reading third).value.fieldValue .stdInput) ∧
    ((¬ ∃ content, WireField.password.content? third = some content ∧
        WireField.password.kind.Admits content) ∧
      (reading third).value.fieldValue .password = .text "") ∧
    (WireField.cpuAffinity.content? first = some (affinity "x") ∧
      ⟨.cpuAffinity, .notFlag 1⟩ ∈ (reading first).faults) ∧
    first.blank = second.blank ∧
      (reading first).faults.map FieldFault.message =
        (reading second).faults.map FieldFault.message := by
  intro affinity settings first second third
  obtain ⟨-, same, -, -, -, -, flags, blank⟩ := fields_read_independently first
  obtain ⟨-, -, missing, -⟩ := fields_read_independently third
  have noPassword : ¬ ∃ content, WireField.password.content? third = some content ∧
      WireField.password.kind.Admits content := by
    rintro ⟨content, ⟨⟩, -⟩
  have index : ∀ i < 1, ∃ b, [Json.flag true, .null, .text "x"][i]? = some (.flag b) := by
    intro i first
    obtain rfl : i = 0 := by omega
    exact ⟨true, rfl⟩
  refine ⟨⟨rfl, same third .stdInput rfl⟩, ⟨noPassword, missing _ noPassword⟩, ⟨rfl, ?_⟩, ?_⟩
  · exact flags _ 1 .null rfl rfl nofun index
  · have blanks : first.blank = second.blank := rfl
    exact ⟨blanks, blank second blanks⟩

end LaunchProfile

end SessionHandoff
