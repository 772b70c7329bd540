import SessionHandoff.Profile.Wire
import SessionHandoff.Proofs.Json.Printed

/-!
# What is written of a profile is read back

Every field is written under its own key, in the object that its reader looks into, and as a value
that its reader accepts. So the reading of a written profile meets no fault, and what it yields is
the profile with its limits as a reader sees them (`LaunchProfile.reading_toJson`). The written form
opens few arrays and objects and holds no double, so its text can be read back as well
(`LaunchProfile.readable_toJson`).
-/

set_option autoImplicit false

namespace SessionHandoff

/-! ## Keys -/

/-- No two fields share a key. -/
theorem WireField.key_inj {a b : WireField} : a.key = b.key ↔ a = b := by
  cases a <;> cases b <;> simp [key]

/-! ## Reading in sequence -/

@[simp] theorem Reading.pure_bind {α β : Type} (a : α) (f : α → Reading β) :
    (pure a >>= f : Reading β) = f a := rfl

namespace FieldSource

/-- The first member of an object is looked at before the others. -/
@[simp] theorem get?_entry (field other : WireField) (v : Json) (rest : List (String × Json)) :
    get? (some (other.entry v :: rest)) field =
      if field = other then some v else get? (some rest) field := by
  by_cases h : field = other
  · simp [get?, Json.member?, WireField.entry, h]
  · have hkey : (field.key == other.key) = false := by simpa [WireField.key_inj] using h
    simp [get?, Json.member?, WireField.entry, List.lookup_cons, hkey, h]

variable {source : FieldSource} {field : WireField}

/-- A field whose content is accepted is read without fault. -/
theorem read_of_get? {α : Type} {expected : Expectation} {convert : Json → Option α} {v : Json}
    {default a : α} (h : source.get? field = some v) (hconvert : convert v = some a) :
    source.read field expected convert default = pure a := by
  simp [read, h, hconvert]

theorem text_of_get? (s : String) (h : source.get? field = some (.text s)) :
    source.text field = pure s :=
  read_of_get? h rfl

theorem object_of_get? (v : Json) {members : List (String × Json)} (h : source.get? field = some v)
    (hv : v.members? = some members) : source.object field = pure v.members? := by
  rw [hv]
  exact read_of_get? h (by rw [hv]; rfl)

theorem array_of_get? {items : List Json} (h : source.get? field = some (.array items)) :
    source.array field = pure items :=
  read_of_get? h rfl

/-! ## Numbers -/

theorem natural_of_get? {n : UInt64} (h : source.get? field = some (.ofUInt64 n)) :
    source.natural field = pure n := by
  refine read_of_get? h ?_
  have hn : (0 : Int) ≤ n.toNat := Int.natCast_nonneg _
  simp [Json.ofUInt64, Json.number?, Json.Number.unsigned?, hn]

/-- A written limit is read as the reader sees it. -/
theorem limit_of_get? (l : Option UInt64) (h : source.get? field = some (.ofLimit l)) :
    source.limit field = pure (wireLimit l) := by
  rw [limit, natural_of_get? h, Reading.pure_bind, limitOfWire_limitToWire]

theorem integer_of_get? {k : Int} {hk : -9223372036854775808 ≤ k ∧ k < 18446744073709551616}
    (h : source.get? field = some (.number (.integer k hk))) (hmax : k ≤ Json.Number.maxSigned) :
    source.integer field = pure k := by
  refine read_of_get? h ?_
  simp only [Json.number?, Option.bind_some, Json.Number.signed?, if_pos hmax]

theorem priority_of_get? (n : Int32) (h : source.get? .priority = some (.ofInt32 n)) :
    source.priority = pure n := by
  have hmin := n.le_toInt
  have hmax := n.toInt_lt
  -- A number of 32 bits is far from the ends of the signed numbers of 64 bits.
  have hsigned : n.toInt ≤ Json.Number.maxSigned := by unfold Json.Number.maxSigned; omega
  rw [priority, integer_of_get? h hsigned, Reading.pure_bind, if_pos ⟨by omega, by omega⟩,
    Int32.ofInt_toInt]

theorem streams_of_get? (b : StreamBehavior) (h : source.get? .streams = some b.toJson) :
    source.streams = pure b := by
  -- The three numbers are written unsigned and read signed.
  have hinteger : source.integer .streams = pure b.toWire := by
    cases b <;> exact integer_of_get? h (by decide)
  rw [streams, hinteger, Reading.pure_bind, StreamBehavior.ofWire?_eq_some_iff.2 rfl]

/-! ## Lists -/

theorem textArray_of_get? (texts : List String)
    (h : source.get? field = some (.array (texts.map .text))) :
    source.textArray field = pure texts := by
  have htexts : (texts.map Json.text).mapM Json.text? = some (texts.map id) := by
    rw [List.mapM_map]
    exact List.mapM_pure
  rw [List.map_id] at htexts
  rw [textArray, array_of_get? h, Reading.pure_bind, htexts]

/-- A written environment is read as its variables in their order. -/
theorem textObject_of_get? (e : Environment) (h : source.get? field = some e.toJson) :
    source.textObject field = pure e.entries := by
  have hentries : (e.entries.map fun v => (v.1, Json.text v.2)).mapM
      (fun e => e.2.text?.map (e.1, ·)) = some (e.entries.map id) := by
    rw [List.mapM_map]
    exact List.mapM_pure
  rw [List.map_id] at hentries
  rw [textObject, object_of_get? _ h rfl, Reading.pure_bind]
  simp only [Environment.toJson, Json.members?, Option.getD_some, hentries]

theorem affinityOfItems_flags (index : Nat) (flags : List Bool) :
    affinityOfItems.go index (flags.map Json.flag) = .ok flags := by
  induction flags generalizing index with
  | nil => rfl
  | cons b flags ih =>
    rw [List.map_cons, affinityOfItems.go, ih]
    rfl

theorem affinity_of_get? (flags : List Bool)
    (h : source.get? .cpuAffinity = some (.ofAffinity flags)) :
    source.affinity = pure flags := by
  rw [affinity, array_of_get? h, Reading.pure_bind, affinityOfItems, affinityOfItems_flags]

end FieldSource

/-! ## The reading of a written profile -/

theorem SessionContext.reading_toJson (c : SessionContext) :
    SessionContext.reading c.toJson.members? = pure c := by
  simp only [SessionContext.toJson, Json.members?, SessionContext.reading]
  rw [FieldSource.text_of_get? c.username (by simp), Reading.pure_bind,
    FieldSource.text_of_get? c.scope.project (by simp), Reading.pure_bind,
    FieldSource.text_of_get? c.scope.id (by simp), Reading.pure_bind]

/-- Written limits are read as the reader sees them. -/
theorem ResourceLimits.reading_toJson (c : ProcessConfig) :
    ResourceLimits.reading c.toJson.members? = pure c.limits.wireNormalized := by
  simp only [ProcessConfig.toJson, Json.members?, ResourceLimits.reading]
  rw [FieldSource.priority_of_get? c.limits.priority (by simp), Reading.pure_bind,
    FieldSource.limit_of_get? c.limits.memoryBytes (by simp), Reading.pure_bind,
    FieldSource.limit_of_get? c.limits.stackBytes (by simp), Reading.pure_bind,
    FieldSource.limit_of_get? c.limits.userProcesses (by simp), Reading.pure_bind,
    FieldSource.limit_of_get? c.limits.cpuSeconds (by simp), Reading.pure_bind,
    FieldSource.limit_of_get? c.limits.nice (by simp), Reading.pure_bind,
    FieldSource.limit_of_get? c.limits.openFiles (by simp), Reading.pure_bind,
    FieldSource.affinity_of_get? c.limits.cpuAffinity (by simp), Reading.pure_bind]
  rfl

/-- Written settings of a process are read with their limits as the reader sees them. -/
theorem ProcessConfig.reading_toJson (c : ProcessConfig) :
    ProcessConfig.reading c.toJson.members? =
      pure { c with limits := c.limits.wireNormalized } := by
  -- The variables ascend, so putting them in order again moves none of them.
  have henvironment : Environment.ofList c.environment.entries = c.environment :=
    Environment.ext (Entries.ofList_of_ascending c.environment.ascending)
  simp only [ProcessConfig.reading]
  rw [ResourceLimits.reading_toJson]
  simp only [ProcessConfig.toJson, Json.members?]
  rw [FieldSource.textArray_of_get? c.args (by simp), Reading.pure_bind,
    FieldSource.textObject_of_get? c.environment (by simp), Reading.pure_bind,
    FieldSource.text_of_get? c.stdInput (by simp), Reading.pure_bind,
    FieldSource.streams_of_get? c.streams (by simp), Reading.pure_bind, Reading.pure_bind,
    henvironment]

/-- A written profile is read without fault, as the profile with its limits as the reader sees
them. -/
theorem LaunchProfile.reading_toJson (p : LaunchProfile) :
    LaunchProfile.reading p.toJson = pure p.wireNormalized := by
  simp only [LaunchProfile.reading, LaunchProfile.toJson, Json.members?]
  rw [FieldSource.object_of_get? p.context.toJson (by simp) rfl, Reading.pure_bind,
    FieldSource.text_of_get? p.password (by simp), Reading.pure_bind,
    FieldSource.text_of_get? p.encryptionKey (by simp), Reading.pure_bind,
    FieldSource.text_of_get? p.executable (by simp), Reading.pure_bind,
    FieldSource.object_of_get? p.config.toJson (by simp) rfl, Reading.pure_bind,
    SessionContext.reading_toJson, Reading.pure_bind, ProcessConfig.reading_toJson,
    Reading.pure_bind]
  rfl

/-! ## The text of a written profile -/

/-- Fields stand in the order of their keys. -/
theorem Entries.ascending_of_keys {α : Type} {entries : List (String × α)}
    (h : (entries.map Prod.fst).Pairwise (· < ·)) : Entries.Ascending entries :=
  List.pairwise_map.1 h

namespace Json

theorem readable_texts (texts : List String) (room : Nat) :
    (Json.array (texts.map .text)).Readable (room + 1) := by
  refine ⟨Nat.succ_pos room, readableItems_iff.2 fun v hv => ?_⟩
  obtain ⟨s, -, rfl⟩ := List.mem_map.1 hv
  trivial

theorem readable_ofAffinity (flags : List Bool) (room : Nat) :
    (ofAffinity flags).Readable (room + 1) := by
  refine ⟨Nat.succ_pos room, readableItems_iff.2 fun v hv => ?_⟩
  obtain ⟨b, -, rfl⟩ := List.mem_map.1 hv
  trivial

end Json

theorem StreamBehavior.readable_toJson (b : StreamBehavior) (room : Nat) :
    b.toJson.Readable room := by
  cases b <;> trivial

theorem Environment.readable_toJson (e : Environment) (room : Nat) :
    e.toJson.Readable (room + 1) := by
  refine ⟨Nat.succ_pos room, List.pairwise_map.2 e.ascending,
    Json.readableMembers_iff.2 fun m hm => ?_⟩
  obtain ⟨v, -, rfl⟩ := List.mem_map.1 hm
  trivial

theorem SessionContext.readable_toJson (c : SessionContext) (room : Nat) :
    c.toJson.Readable (room + 1) := by
  have hkeys : ([WireField.id, .project, .username].map WireField.key).Pairwise (· < ·) := by
    decide
  refine ⟨Nat.succ_pos room, Entries.ascending_of_keys hkeys, ?_⟩
  exact ⟨trivial, trivial, trivial, trivial⟩

theorem ProcessConfig.readable_toJson (c : ProcessConfig) (room : Nat) :
    c.toJson.Readable (room + 2) := by
  have hkeys : ([WireField.args, .cpuAffinity, .cpuSeconds, .environment, .openFiles, .memoryBytes,
      .nice, .priority, .stackBytes, .stdInput, .streams, .userProcesses].map
        WireField.key).Pairwise (· < ·) := by
    decide
  refine ⟨Nat.succ_pos _, Entries.ascending_of_keys hkeys, ?_⟩
  exact ⟨Json.readable_texts c.args room, Json.readable_ofAffinity c.limits.cpuAffinity room,
    trivial, c.environment.readable_toJson room, trivial, trivial, trivial, trivial, trivial,
    trivial, c.streams.readable_toJson _, trivial, trivial⟩

/-- The text of a written profile can be read back. -/
theorem LaunchProfile.readable_toJson (p : LaunchProfile) : p.toJson.Readable Json.maxDepth := by
  have hkeys : ([WireField.config, .context, .encryptionKey, .executable, .password].map
      WireField.key).Pairwise (· < ·) := by
    decide
  refine ⟨by decide, Entries.ascending_of_keys hkeys, ?_⟩
  exact ⟨p.config.readable_toJson _, p.context.readable_toJson _, trivial, trivial, trivial,
    trivial⟩

end SessionHandoff
