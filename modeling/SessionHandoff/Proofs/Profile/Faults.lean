import SessionHandoff.Profile.Wire

/-!
# The faults of a reading

Each field of a written profile has a kind, and the kind alone says what is wrong with a content
(`FieldKind.problem?`). A field that checks more than the type of its content has these checks in
its kind. A field is looked up in the object of its scope, and without that object it is missing.

`LaunchProfile.faults_reading`: the faults of reading any value are those of its fields, in the order
of reading, and at most one of each. So no check of a field is made twice, left out, or depends on
another field.
-/

set_option autoImplicit false

namespace SessionHandoff

/-! ## Fields and their contents -/

/-- The object of a value that holds the fields of a scope, if there is one. -/
def Scope.source (v : Json) : Scope → FieldSource
  | .profile => v.members?
  | .context => (FieldSource.get? v.members? .context).bind Json.members?
  | .config => (FieldSource.get? v.members? .config).bind Json.members?

/-- What a value holds for a field. -/
def WireField.content? (v : Json) (field : WireField) : Option Json :=
  (field.scope.source v).get? field

/-- What a field takes. -/
inductive FieldKind where
  | object | text | texts | textObject | streams | priority | limit | flags
deriving DecidableEq, Repr

/-- The kind of a field. -/
def WireField.kind : WireField → FieldKind
  | .context | .config => .object
  | .password | .encryptionKey | .executable | .username | .project | .id | .stdInput => .text
  | .args => .texts
  | .environment => .textObject
  | .streams => .streams
  | .priority => .priority
  | .memoryBytes | .stackBytes | .userProcesses | .cpuSeconds | .nice | .openFiles => .limit
  | .cpuAffinity => .flags

namespace FieldKind

/-- What is wrong with a signed integer of which some are wanted. -/
def rangeProblem? (wanted : Int → Bool) (n : Json.Number) : Option FieldProblem :=
  match n.signed? with
  | none => some (.mistyped .integer)
  | some k => if wanted k then none else some (.outOfRange k)

/-- What is wrong with a content, if anything is. -/
def problem? : FieldKind → Json → Option FieldProblem
  | .object, .object _ => none
  | .object, _ => some (.mistyped .object)
  | .text, .text _ => none
  | .text, _ => some (.mistyped .text)
  | .texts, .array items =>
    if items.all (·.text?.isSome) then none else some (.mistyped .textArray)
  | .texts, _ => some (.mistyped .array)
  | .textObject, .object members =>
    if members.all (·.2.text?.isSome) then none else some (.mistyped .textObject)
  | .textObject, _ => some (.mistyped .object)
  | .streams, .number n => rangeProblem? (fun k => k == 0 || k == 1 || k == 2) n
  | .streams, _ => some (.mistyped .integer)
  | .priority, .number n =>
    rangeProblem? (fun k => decide (-2147483648 ≤ k) && decide (k < 2147483648)) n
  | .priority, _ => some (.mistyped .integer)
  | .limit, .number n => if n.unsigned?.isSome then none else some (.mistyped .natural)
  | .limit, _ => some (.mistyped .natural)
  | .flags, .array items => (items.findIdx? (·.flag?.isNone)).map .notFlag
  | .flags, _ => some (.mistyped .array)

/-- What is wrong with a field that has a content or is missing. -/
def problemOf (kind : FieldKind) : Option Json → Option FieldProblem
  | none => some .missing
  | some v => kind.problem? v

end FieldKind

/-- What is wrong with a field of a value. -/
def WireField.problem? (v : Json) (field : WireField) : Option FieldProblem :=
  field.kind.problemOf (field.content? v)

/-- The fault of a field with a problem, if there is one. -/
def WireField.faults (field : WireField) (problem : Option FieldProblem) : List FieldFault :=
  (problem.map (FieldFault.mk field)).toList

/-! ## Collections -/

/-- Every item of a list is taken, or the list is not. -/
theorem isSome_mapM {α β : Type} (f : α → Option β) (items : List α) :
    (items.mapM f).isSome = items.all (f · |>.isSome) := by
  induction items with
  | nil => rfl
  | cons item rest ih =>
    rw [List.mapM_cons, List.all_cons, ← ih]
    cases f item with
    | none => rfl
    | some b =>
      cases rest.mapM f with
      | none => rfl
      | some bs => rfl

/-- Flags are read up to the first item that is none. -/
theorem affinityOfItems_go (index : Nat) (items : List Json) :
    affinityOfItems.go index items =
      match items.findIdx? (·.flag?.isNone) with
      | none => .ok (items.filterMap Json.flag?)
      | some i => .error (index + i) := by
  induction items generalizing index with
  | nil => rfl
  | cons item rest ih =>
    rw [affinityOfItems.go, List.findIdx?_cons, List.filterMap_cons]
    cases item.flag? with
    | none => rfl
    | some b =>
      rw [ih (index + 1)]
      cases rest.findIdx? (·.flag?.isNone) with
      | none => rfl
      | some i =>
        have behind : index + 1 + i = index + (i + 1) := by omega
        exact congrArg Except.error behind

/-! ## The faults of one field -/

namespace FieldSource

variable (source : FieldSource) (field : WireField)

theorem faults_text :
    (source.text field).faults = field.faults (FieldKind.text.problemOf (source.get? field)) := by
  unfold text read
  cases source.get? field with
  | none => rfl
  | some v => cases v <;> rfl

theorem faults_object :
    (source.object field).faults =
      field.faults (FieldKind.object.problemOf (source.get? field)) := by
  unfold object read
  cases source.get? field with
  | none => rfl
  | some v => cases v <;> rfl

/-- What is looked up further is the object that the field holds. -/
theorem value_object : (source.object field).value = (source.get? field).bind Json.members? := by
  unfold object read
  cases source.get? field with
  | none => rfl
  | some v => cases v <;> rfl

theorem faults_limit :
    (source.limit field).faults = field.faults (FieldKind.limit.problemOf (source.get? field)) := by
  unfold limit natural read
  cases source.get? field with
  | none => rfl
  | some v =>
    cases v with
    | number n =>
      simp only [Json.number?, Option.bind_some, FieldKind.problemOf, FieldKind.problem?]
      cases n.unsigned? with
      | none => rfl
      | some k => rfl
    | null | flag b | text s | array items | object members => rfl

/-- A signed integer is read, and then judged. -/
theorem faults_range {α : Type} (wanted : Int → Bool) (judge : Int → Reading α)
    (zero : wanted 0 = true)
    (judged : ∀ k, (judge k).faults =
      field.faults (if wanted k then none else some (.outOfRange k))) :
    (source.integer field >>= judge).faults =
      field.faults (match source.get? field with
        | none => some .missing
        | some (.number n) => FieldKind.rangeProblem? wanted n
        | some _ => some (.mistyped .integer)) := by
  -- Zero stands in for what cannot be read, and it is wanted, so there is no second fault.
  have standsIn : (judge 0).faults = [] := by
    rw [judged, if_pos zero]
    rfl
  rw [Reading.faults_bind]
  unfold integer read
  cases source.get? field with
  | none => exact congrArg ([_] ++ ·) standsIn
  | some v =>
    cases v with
    | number n =>
      simp only [Json.number?, Option.bind_some, FieldKind.rangeProblem?]
      cases n.signed? with
      | none => exact congrArg ([_] ++ ·) standsIn
      | some k => exact judged k
    | null | flag b | text s | array items | object members =>
      exact congrArg ([_] ++ ·) standsIn

theorem faults_priority :
    source.priority.faults =
      WireField.priority.faults (FieldKind.priority.problemOf (source.get? .priority)) := by
  refine (faults_range source .priority
    (fun k => decide (-2147483648 ≤ k) && decide (k < 2147483648)) _ (by decide) ?_).trans ?_
  · intro k
    by_cases inRange : -2147483648 ≤ k ∧ k < 2147483648
    · rw [if_pos inRange, if_pos (by simpa using inRange)]
      rfl
    · rw [if_neg inRange, if_neg (by simpa using inRange)]
      rfl
  · cases source.get? .priority with
    | none => rfl
    | some v => cases v <;> rfl

theorem faults_streams :
    source.streams.faults =
      WireField.streams.faults (FieldKind.streams.problemOf (source.get? .streams)) := by
  refine (faults_range source .streams (fun k => k == 0 || k == 1 || k == 2) _ (by decide) ?_).trans
    ?_
  · intro k
    unfold StreamBehavior.ofWire?
    by_cases inherit : k = 0
    · subst inherit
      rfl
    · by_cases capture : k = 1
      · subst capture
        rfl
      · by_cases discard : k = 2
        · subst discard
          rfl
        · simp only [if_neg inherit, if_neg capture, if_neg discard, beq_eq_false_iff_ne.2 inherit,
            beq_eq_false_iff_ne.2 capture, beq_eq_false_iff_ne.2 discard]
          rfl
  · cases source.get? .streams with
    | none => rfl
    | some v => cases v <;> rfl

theorem faults_textArray :
    (source.textArray field).faults =
      field.faults (FieldKind.texts.problemOf (source.get? field)) := by
  unfold textArray array read
  cases source.get? field with
  | none => rfl
  | some v =>
    cases v with
    | array items =>
      simp only [FieldKind.problemOf, FieldKind.problem?, ← isSome_mapM]
      rw [Reading.faults_bind]
      simp only [Json.items?, Reading.value_pure]
      cases items.mapM Json.text? with
      | none => rfl
      | some texts => rfl
    | null | flag b | text s | number n | object members => rfl

theorem faults_textObject :
    (source.textObject field).faults =
      field.faults (FieldKind.textObject.problemOf (source.get? field)) := by
  unfold textObject object read
  cases source.get? field with
  | none => rfl
  | some v =>
    cases v with
    | object members =>
      have texts : (members.mapM fun e : String × Json => e.2.text?.map (e.1, ·)).isSome =
          members.all (·.2.text?.isSome) := by
        rw [isSome_mapM]
        simp only [Option.isSome_map]
      simp only [FieldKind.problemOf, FieldKind.problem?, ← texts]
      rw [Reading.faults_bind]
      simp only [Json.members?, Option.map_some, Reading.value_pure, Option.getD_some]
      cases members.mapM fun e : String × Json => e.2.text?.map (e.1, ·) with
      | none => rfl
      | some entries => rfl
    | null | flag b | text s | number n | array items => rfl

theorem faults_affinity :
    source.affinity.faults =
      WireField.cpuAffinity.faults (FieldKind.flags.problemOf (source.get? .cpuAffinity)) := by
  unfold affinity array read
  cases source.get? .cpuAffinity with
  | none => rfl
  | some v =>
    cases v with
    | array items =>
      simp only [FieldKind.problemOf, FieldKind.problem?]
      rw [Reading.faults_bind]
      simp only [Json.items?, Reading.value_pure, affinityOfItems, affinityOfItems_go]
      cases items.findIdx? (·.flag?.isNone) with
      | none => rfl
      | some i =>
        simp only [Nat.zero_add]
        rfl
    | null | flag b | text s | number n | object members => rfl

end FieldSource

/-! ## The faults of a profile -/

theorem SessionContext.faults_reading (source : FieldSource) :
    (SessionContext.reading source).faults =
      [WireField.username, .project, .id].flatMap fun field =>
        field.faults (field.kind.problemOf (source.get? field)) := by
  simp only [SessionContext.reading, Reading.faults_bind, Reading.faults_pure,
    FieldSource.faults_text, List.flatMap_cons, List.flatMap_nil, WireField.kind]

theorem ResourceLimits.faults_reading (source : FieldSource) :
    (ResourceLimits.reading source).faults =
      [WireField.priority, .memoryBytes, .stackBytes, .userProcesses, .cpuSeconds, .nice,
        .openFiles, .cpuAffinity].flatMap fun field =>
          field.faults (field.kind.problemOf (source.get? field)) := by
  simp only [ResourceLimits.reading, Reading.faults_bind, Reading.faults_pure,
    FieldSource.faults_priority, FieldSource.faults_limit, FieldSource.faults_affinity,
    List.flatMap_cons, List.flatMap_nil, WireField.kind]

theorem ProcessConfig.faults_reading (source : FieldSource) :
    (ProcessConfig.reading source).faults =
      [WireField.args, .environment, .stdInput, .streams, .priority, .memoryBytes, .stackBytes,
        .userProcesses, .cpuSeconds, .nice, .openFiles, .cpuAffinity].flatMap fun field =>
          field.faults (field.kind.problemOf (source.get? field)) := by
  simp only [ProcessConfig.reading, Reading.faults_bind, Reading.faults_pure,
    FieldSource.faults_textArray, FieldSource.faults_textObject, FieldSource.faults_text,
    FieldSource.faults_streams, ResourceLimits.faults_reading, List.flatMap_cons,
    List.flatMap_nil, WireField.kind, List.append_nil]

/-- **The faults of reading a value** are those of its fields, each by its own content, in the order
of reading. -/
theorem LaunchProfile.faults_reading (v : Json) :
    (LaunchProfile.reading v).faults =
      WireField.readingOrder.flatMap fun field => field.faults (field.problem? v) := by
  simp only [LaunchProfile.reading, Reading.faults_bind, Reading.faults_pure,
    FieldSource.faults_object, FieldSource.faults_text, FieldSource.value_object,
    SessionContext.faults_reading, ProcessConfig.faults_reading, WireField.readingOrder,
    List.flatMap_cons, List.flatMap_nil, WireField.problem?, WireField.content?, WireField.scope,
    Scope.source, WireField.kind, List.append_nil, List.append_assoc]

end SessionHandoff
