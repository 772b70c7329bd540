import Mathlib.Data.List.Forall2
import Mathlib.Data.Option.Basic
import SessionHandoff.Proofs.Profile.Independence
import SessionHandoff.Proofs.Profile.Numbers

/-!
# Numbers that are written in another way

A sender may write an integer as a double. A value is restated in this way in some of the fields of
its settings that hold numbers, and nowhere else (`Json.Restates`). The integers in question are at
most 2^53 in size, so each of them is a double (`Json.Binary64.exists_value_eq`).

To a field a restated number means what the number means, and has the same fault
(`WireField.alike_of_restated`), hence restated values are read alike under every policy
(`LaunchProfile.restated_numbers_read_alike`).
-/

set_option autoImplicit false

namespace SessionHandoff

/-! ## Numbers -/

namespace Json

/-- All integers of at most 2^53 in size are doubles. -/
theorem Binary64.exists_value_eq {k : Int} (small : k.natAbs ≤ 9007199254740992) :
    ∃ x : Binary64, x.value = k := by
  by_cases bits : k.natAbs < 9007199254740992
  · have inFormat : k.natAbs < 1 <<< 53 ∧ (-1074 : Int) ≤ 0 ∧ (0 : Int) ≤ 971 :=
      ⟨bits, by decide, by decide⟩
    exact ⟨⟨k, 0, inFormat⟩, by simp [value]⟩
  · -- 2^53 itself has one bit more than a significand, and is even
    obtain rfl | rfl : k = 9007199254740992 ∨ k = -9007199254740992 := by omega
    · exact ⟨⟨4503599627370496, 1, by decide⟩, by norm_num [value]⟩
    · exact ⟨⟨-4503599627370496, 1, by decide⟩, by norm_num [value]⟩

namespace Number

/-- One integer of at most 2^53 in size, written as an integer and as a double; or one number. -/
inductive Restates : Number → Number → Prop where
  | same (x : Number) : Restates x x
  | asDouble {k : Int} {inRange} {x : Binary64} (small : k.natAbs ≤ 9007199254740992)
      (equal : x.value = k) : Restates (.integer k inRange) (.double x)
  | asInteger {k : Int} {inRange} {x : Binary64} (small : k.natAbs ≤ 9007199254740992)
      (equal : x.value = k) : Restates (.double x) (.integer k inRange)

variable {x y : Number}

/-- What is read as a signed integer depends on the rational number only. -/
theorem signed?_congr (same : x.value = y.value) : x.signed? = y.signed? := by
  ext k
  rw [signed?_eq_some_iff, signed?_eq_some_iff, same]

/-- Below 2^63 an integer is read as unsigned in the same way when it is a double. -/
theorem unsigned?_double_eq {k : Int} {inRange} {x : Binary64} (small : k.natAbs ≤ 9007199254740992)
    (equal : x.value = k) : (double x).unsigned? = (integer k inRange).unsigned? := by
  ext n
  rw [unsigned?_double, unsigned?_integer, equal]
  constructor
  · rintro (⟨same, -⟩ | ⟨great, -⟩)
    · exact_mod_cast same
    · have great : k = 9223372036854775808 := by exact_mod_cast great
      omega
  · rintro rfl
    exact .inl ⟨rfl, by omega⟩

theorem Restates.value_eq (restated : x.Restates y) : x.value = y.value := by
  cases restated with
  | same => rfl
  | asDouble _ equal => exact equal.symm
  | asInteger _ equal => exact equal

theorem Restates.unsigned?_eq (restated : x.Restates y) : x.unsigned? = y.unsigned? := by
  cases restated with
  | same => rfl
  | asDouble small equal => exact (unsigned?_double_eq small equal).symm
  | asInteger small equal => exact unsigned?_double_eq small equal

end Number

end Json

/-! ## Restated values -/

/-- Whether a field of the kind holds a number. -/
def FieldKind.isNumber : FieldKind → Bool
  | .streams | .priority | .limit => true
  | .object | .text | .texts | .textObject | .flags => false

namespace Json

/-- Objects with the same keys in the same order, and under each key related contents. -/
def RelatedMembers (related : String → Json → Json → Prop) (v w : Json) : Prop :=
  ∃ members others, v = .object members ∧ w = .object others ∧
    List.Forall₂ (fun m o => m.1 = o.1 ∧ related m.1 m.2 o.2) members others

/-- Equal contents, or a number under the key of a field that holds one, and the number restated. -/
def RestatesContent (key : String) (v w : Json) : Prop :=
  v = w ∨ ∃ field : WireField, field.kind.isNumber = true ∧ key = field.key ∧
    ∃ x y, v = .number x ∧ w = .number y ∧ x.Restates y

/-- Equal settings, or settings with some of their numbers restated. -/
def RestatesSettings (v w : Json) : Prop :=
  v = w ∨ RelatedMembers RestatesContent v w

/-- Equal values, or objects that differ in numbers of their settings which are restated. -/
def Restates (v w : Json) : Prop :=
  v = w ∨ RelatedMembers
    (fun key a b => a = b ∨ (key = WireField.key .config ∧ RestatesSettings a b)) v w

theorem member?_related {related : String → Json → Json → Prop}
    {members others : List (String × Json)}
    (all : List.Forall₂ (fun m o => m.1 = o.1 ∧ related m.1 m.2 o.2) members others)
    (key : String) : Option.Rel (related key) (member? key members) (member? key others) := by
  unfold member?
  induction all with
  | nil => exact .none
  | @cons m o members others first _ ih =>
    obtain ⟨same, contents⟩ := first
    rw [List.lookup_cons, List.lookup_cons, ← same]
    by_cases found : key = m.1
    · simp only [found, beq_self_eq_true]
      exact .some contents
    · simp only [beq_eq_false_iff_ne.2 found]
      exact ih

end Json

theorem FieldSource.get?_related {related : String → Json → Json → Prop} {v w : Json}
    (members : Json.RelatedMembers related v w) (field : WireField) :
    Option.Rel (related field.key) (FieldSource.get? v.members? field)
      (FieldSource.get? w.members? field) := by
  obtain ⟨ms, os, rfl, rfl, all⟩ := members
  exact Json.member?_related all field.key

/-! ## Contents that are read alike -/

/-- Two contents that mean the same to a field of the kind, and have the same fault. -/
structure FieldKind.Alike (kind : FieldKind) (v w : Json) : Prop where
  read? : kind.read? v = kind.read? w
  problem? : kind.problem? v = kind.problem? w

theorem FieldKind.Alike.refl (kind : FieldKind) (v : Json) : kind.Alike v v := ⟨rfl, rfl⟩

theorem FieldKind.alike_of_restates {kind : FieldKind} (number : kind.isNumber = true)
    {x y : Json.Number} (restated : x.Restates y) : kind.Alike (.number x) (.number y) := by
  have signed := Json.Number.signed?_congr restated.value_eq
  have unsigned := restated.unsigned?_eq
  cases kind with
  | streams | priority =>
    refine ⟨?_, ?_⟩
    · simp only [read?, Json.number?, Option.bind_some, signed]
    · simp only [problem?, rangeProblem?, signed]
  | limit =>
    refine ⟨?_, ?_⟩
    · simp only [read?, Json.number?, Option.bind_some, unsigned]
    · simp only [problem?, unsigned]
  | object | text | texts | textObject | flags => cases number

/-- A content that is restated is read like the one that it restates. -/
theorem WireField.alike_of_restated {field : WireField} {v w : Json}
    (restated : Json.RestatesContent field.key v w) : field.kind.Alike v w := by
  rcases restated with rfl | ⟨other, number, key, x, y, rfl, rfl, restated⟩
  · exact .refl _ _
  · obtain rfl := WireField.key_inj.1 key
    exact FieldKind.alike_of_restates number restated

/-- Settings stay an object when they are restated. -/
theorem FieldKind.alike_of_settings {v w : Json} (restated : v.RestatesSettings w) :
    FieldKind.object.Alike v w := by
  rcases restated with rfl | ⟨members, others, rfl, rfl, -⟩
  · exact .refl _ _
  · exact ⟨rfl, rfl⟩

/-- Related contents stay related in a wider sense. -/
theorem optionRel_mono {α β : Type} {r s : α → β → Prop} (wider : ∀ a b, r a b → s a b)
    {x : Option α} {y : Option β} (related : Option.Rel r x y) : Option.Rel s x y := by
  cases related with
  | none => exact .none
  | some here => exact .some (wider _ _ here)

namespace WireField

variable {v w : Json} {field : WireField}

theorem alike_refl (field : WireField) (content : Option Json) :
    Option.Rel field.kind.Alike content content := by
  cases content with
  | none => exact .none
  | some v => exact .some (.refl _ v)

/-- The settings of restated values are restated, and all else at the top is equal. -/
theorem get?_of_restates (restated : v.Restates w) (field : WireField) :
    Option.Rel (fun a b => a = b ∨ (field = .config ∧ Json.RestatesSettings a b))
      (FieldSource.get? v.members? field) (FieldSource.get? w.members? field) := by
  rcases restated with rfl | members
  · cases FieldSource.get? v.members? field with
    | none => exact .none
    | some a => exact .some (.inl rfl)
  · refine optionRel_mono (fun a b related => ?_) (FieldSource.get?_related members field)
    exact related.imp_right fun ⟨key, settings⟩ => ⟨key_inj.1 key, settings⟩

/-- The contents that restated settings have for a field are restated. -/
theorem get?_of_restatesSettings (restated : v.RestatesSettings w) (field : WireField) :
    Option.Rel field.kind.Alike (FieldSource.get? v.members? field)
      (FieldSource.get? w.members? field) := by
  rcases restated with rfl | members
  · exact alike_refl _ _
  · exact optionRel_mono (fun a b => alike_of_restated) (FieldSource.get?_related members field)

/-- The fields of restated values are read alike. -/
theorem content?_of_restates (restated : v.Restates w) (field : WireField) :
    Option.Rel field.kind.Alike (field.content? v) (field.content? w) := by
  have top := get?_of_restates restated
  unfold content? Scope.source
  cases field.scope with
  | profile =>
    refine optionRel_mono (fun a b related => ?_) (top field)
    rcases related with rfl | ⟨rfl, settings⟩
    · exact .refl _ a
    · exact FieldKind.alike_of_settings settings
  | context =>
    -- the context is not restated
    have same : FieldSource.get? v.members? .context = FieldSource.get? w.members? .context := by
      have related := top .context
      generalize FieldSource.get? v.members? .context = a at related
      generalize FieldSource.get? w.members? .context = b at related
      cases related with
      | none => rfl
      | some here =>
        rcases here with rfl | ⟨⟨⟩, -⟩
        rfl
    dsimp only
    rw [same]
    exact alike_refl _ _
  | config =>
    have related := top .config
    dsimp only
    -- both have settings or neither has
    generalize FieldSource.get? v.members? .config = a at related
    generalize FieldSource.get? w.members? .config = b at related
    cases related with
    | none => exact alike_refl _ _
    | some here =>
      rcases here with rfl | ⟨-, settings⟩
      · exact alike_refl _ _
      · exact get?_of_restatesSettings settings field

end WireField

/-! ## Values that are read alike -/

theorem Reading.ext {α : Type} {r s : Reading α} (value : r.value = s.value)
    (faults : r.faults = s.faults) : r = s := by
  cases r
  cases s
  cases value
  cases faults
  rfl

namespace LaunchProfile

/-- A profile is what it has for the fields. -/
theorem eq_of_fieldValue_eq {p q : LaunchProfile}
    (same : ∀ field, p.fieldValue field = q.fieldValue field) : p = q := by
  obtain ⟨⟨username, ⟨project, id⟩⟩, password, encryptionKey, executable,
    ⟨args, environment, stdInput, streams, ⟨priority, memoryBytes, stackBytes, userProcesses,
      cpuSeconds, nice, openFiles, cpuAffinity⟩⟩⟩ := p
  cases same .username
  cases same .project
  cases same .id
  cases same .password
  cases same .encryptionKey
  cases same .executable
  cases same .args
  cases same .environment
  cases same .stdInput
  cases same .streams
  cases same .priority
  cases same .memoryBytes
  cases same .stackBytes
  cases same .userProcesses
  cases same .cpuSeconds
  cases same .nice
  cases same .openFiles
  cases same .cpuAffinity
  rfl

/-- Values whose fields are read alike are read alike. -/
theorem reading_eq_of_alike {v w : Json}
    (alike : ∀ field : WireField, Option.Rel field.kind.Alike (field.content? v)
      (field.content? w)) : reading v = reading w := by
  have value : (reading v).value = (reading w).value := by
    -- what is read for a field is what its content means, or its default
    refine eq_of_fieldValue_eq fun field => ?_
    rw [fieldValue_reading, fieldValue_reading]
    have fields := alike field
    generalize field.content? v = a at fields ⊢
    generalize field.content? w = b at fields ⊢
    cases fields with
    | none => rfl
    | some here => simp only [FieldKind.decode, Option.bind_some, here.read?]
  have faults : (reading v).faults = (reading w).faults := by
    have problem (field : WireField) : field.problem? v = field.problem? w := by
      unfold WireField.problem?
      have fields := alike field
      generalize field.content? v = a at fields ⊢
      generalize field.content? w = b at fields ⊢
      cases fields with
      | none => rfl
      | some here => exact here.problem?
    simp only [faults_reading, problem]
  exact Reading.ext value faults

/-- **Numbers written in another way mean the same.** Every integer of at most 2^53 in size is a
double. Two values that differ only in which of such integers are written as doubles, in the fields
of the settings that hold numbers, have the same faults when they are read, and under each policy
the same profile or refusal and the same records. -/
theorem restated_numbers_read_alike :
    (∀ k : Int, k.natAbs ≤ 9007199254740992 → ∃ x : Json.Binary64, x.value = k) ∧
    ∀ v w : Json, v.Restates w → (reading v).faults = (reading w).faults ∧
      ofAnyJson v = ofAnyJson w ∧ ∀ policy, ofJson policy v = ofJson policy w := by
  refine ⟨fun k small => Json.Binary64.exists_value_eq small, fun v w restated => ?_⟩
  have same := reading_eq_of_alike (WireField.content?_of_restates restated)
  refine ⟨congrArg Reading.faults same, ?_, fun policy => ?_⟩
  · rw [ofAnyJson, ofAnyJson, ofJson, ofJson, same]
  · rw [ofJson, ofJson, same]

/-- Settings with five numbers, of which two are refused, and each of them written the other way. -/
theorem restated_numbers_read_alike_refused :
    let settings (cpu memory nice priority streams : Json.Number) : Json :=
      .object [("config", .object [("cpuLimit", .number cpu), ("memoryLimitBytes", .number memory),
        ("niceLimit", .number nice), ("priority", .number priority),
        ("stdStreamBehavior", .number streams)])]
    let v := settings (.integer (-1) (by decide)) (.double .zero)
      (.integer 9007199254740992 (by decide)) (.integer 3000000000 (by decide))
      (.double ⟨1, 1, by decide⟩)
    let w := settings (.double ⟨-1, 0, by decide⟩) (.integer 0 (by decide))
      (.double ⟨4503599627370496, 1, by decide⟩) (.double ⟨750000000, 2, by decide⟩)
      (.integer 2 (by decide))
    v.Restates w ∧ (∀ policy, ofJson policy v = ofJson policy w) ∧
      (reading w).value.config.limits.nice = some 9007199254740992 ∧
      (reading w).value.config.streams = .discard ∧
      ⟨.priority, .outOfRange 3000000000⟩ ∈ (reading v).faults ∧
      ⟨.priority, .outOfRange 3000000000⟩ ∈ (reading w).faults := by
  intro settings v w
  have number {key : String} {x y : Json.Number} (field : WireField) (same : key = field.key)
      (holds : field.kind.isNumber = true) (restated : x.Restates y) :
      key = key ∧ Json.RestatesContent key (.number x) (.number y) :=
    ⟨rfl, .inr ⟨field, holds, same, x, y, rfl, rfl, restated⟩⟩
  have restated : v.Restates w := by
    refine .inr ⟨_, _, rfl, rfl, .cons ⟨rfl, .inr ⟨rfl, .inr ⟨_, _, rfl, rfl,
      .cons (number .cpuSeconds rfl rfl ?_) (.cons (number .memoryBytes rfl rfl ?_)
        (.cons (number .nice rfl rfl ?_) (.cons (number .priority rfl rfl ?_)
          (.cons (number .streams rfl rfl ?_) .nil))))⟩⟩⟩ .nil⟩
    · exact .asDouble (by decide) (by norm_num [Json.Binary64.value])
    · exact .asInteger (by decide) (by norm_num [Json.Binary64.value, Json.Binary64.zero])
    · exact .asDouble (by decide) (by norm_num [Json.Binary64.value])
    · exact .asDouble (by decide) (by norm_num [Json.Binary64.value])
    · exact .asInteger (by decide) (by norm_num [Json.Binary64.value])
  obtain ⟨faults, -, same⟩ := restated_numbers_read_alike.2 v w restated
  have refused : ⟨.priority, .outOfRange 3000000000⟩ ∈ (reading v).faults := by decide +kernel
  exact ⟨restated, same, by decide +kernel, by decide +kernel, refused, faults ▸ refused⟩

end LaunchProfile

end SessionHandoff
