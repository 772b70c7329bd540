import SessionHandoff.Profile.Display
import SessionHandoff.Proofs.CommandLine.TwoFiles
import SessionHandoff.Proofs.Text.Shown

/-!
# What the text of a profile tells

The text of a profile in one line tells everything that the profile holds except its two secrets,
and of these whether they are empty (`LaunchProfile.AgreeOutsideSecrets`). It tells no more, and
neither does the text in many lines, which is what the command that prints a profile prints.

A profile is shown as a value in which only names stand unquoted (`LaunchProfile.plain_shown`), so
its text tells this value. Of the value, each part tells the field that it shows.
-/

set_option autoImplicit false

namespace SessionHandoff

open Text (Shown IsName isName_decimalString isName_signedString decimalString_inj signedString_inj)
open Text.Shown (Plain)

/-! ## Only names stand unquoted -/

theorem Text.Shown.plain_optional (n : Option UInt64) : (Shown.optional n).Plain := by
  cases n with
  | none => exact .word (by decide)
  | some n => exact .wrapped (by decide) (.word (isName_decimalString _))

theorem SessionContext.plain_shown (c : SessionContext) : c.shown.Plain := by
  have scope : (Shown.record "SessionScope"
      [("project", .text c.scope.project), ("id", .text c.scope.id)]).Plain := by
    apply Plain.record_of_forall (by decide)
    simp only [List.forall_mem_cons]
    exact ⟨⟨by decide, .text _⟩, ⟨by decide, .text _⟩, List.forall_mem_nil _⟩
  apply Plain.record_of_forall (by decide)
  simp only [List.forall_mem_cons]
  exact ⟨⟨by decide, .text _⟩, ⟨by decide, scope⟩, List.forall_mem_nil _⟩

theorem ResourceLimits.plain_shown (l : ResourceLimits) : l.shown.Plain := by
  have affinity : (Shown.list (l.cpuAffinity.map fun b =>
      .word (if b then "true" else "false"))).Plain := by
    apply Plain.list
    intro v hv
    obtain ⟨b, -, rfl⟩ := List.mem_map.1 hv
    cases b with
    | true => exact .word (by decide)
    | false => exact .word (by decide)
  have limit := Shown.plain_optional
  apply Plain.record_of_forall (by decide)
  simp only [List.forall_mem_cons]
  exact ⟨⟨by decide, .word (isName_signedString _)⟩, ⟨by decide, limit _⟩, ⟨by decide, limit _⟩,
    ⟨by decide, limit _⟩, ⟨by decide, limit _⟩, ⟨by decide, limit _⟩, ⟨by decide, limit _⟩,
    ⟨by decide, affinity⟩, List.forall_mem_nil _⟩

theorem StreamBehavior.isName_label (b : StreamBehavior) : IsName b.label := by
  cases b with
  | inherit => decide
  | capture => decide
  | discard => decide

theorem ProcessConfig.plain_shown (c : ProcessConfig) : c.shown.Plain := by
  have args : (Shown.list (c.args.map .text)).Plain := by
    apply Plain.list
    intro v hv
    obtain ⟨a, -, rfl⟩ := List.mem_map.1 hv
    exact .text a
  have environment : (Shown.map (c.environment.entries.map fun e =>
      (.text e.1, .text e.2))).Plain := by
    apply Plain.map
    · intro e he
      obtain ⟨v, -, rfl⟩ := List.mem_map.1 he
      exact .text _
    · intro e he
      obtain ⟨v, -, rfl⟩ := List.mem_map.1 he
      exact .text _
  apply Plain.record_of_forall (by decide)
  simp only [List.forall_mem_cons]
  exact ⟨⟨by decide, args⟩, ⟨by decide, environment⟩, ⟨by decide, .text _⟩,
    ⟨by decide, .word c.streams.isName_label⟩, ⟨by decide, c.limits.plain_shown⟩,
    List.forall_mem_nil _⟩

/-- A profile is shown with names only standing unquoted: all that is free text stands in quotes. -/
theorem LaunchProfile.plain_shown (p : LaunchProfile) : p.shown.Plain := by
  apply Plain.record_of_forall (by decide)
  simp only [List.forall_mem_cons]
  exact ⟨⟨by decide, p.context.plain_shown⟩, ⟨by decide, .text _⟩, ⟨by decide, .text _⟩,
    ⟨by decide, .text _⟩, ⟨by decide, p.config.plain_shown⟩, List.forall_mem_nil _⟩

/-! ## Each part tells the field it shows -/

theorem Text.Shown.optional_inj {m n : Option UInt64} :
    Shown.optional m = Shown.optional n ↔ m = n := by
  cases m with
  | none =>
    cases n with
    | none => simp
    | some n => simp [Shown.optional]
  | some m =>
    cases n with
    | none => simp [Shown.optional]
    | some n => simp [Shown.optional, decimalString_inj, UInt64.toNat_inj]

theorem SessionContext.shown_inj {c d : SessionContext} : c.shown = d.shown ↔ c = d := by
  obtain ⟨u, ⟨project, id⟩⟩ := c
  obtain ⟨u', ⟨project', id'⟩⟩ := d
  simp [SessionContext.shown]

/-- The words for the flags of processors are different. -/
theorem ResourceLimits.affinity_inj {a b : List Bool} :
    (a.map fun x => Shown.word (if x then "true" else "false")) =
      (b.map fun x => Shown.word (if x then "true" else "false")) ↔ a = b := by
  apply List.map_inj_right
  intro x y h
  cases x <;> cases y <;> simp_all

theorem ResourceLimits.shown_inj {l m : ResourceLimits} : l.shown = m.shown ↔ l = m := by
  cases l
  cases m
  simp [ResourceLimits.shown, Shown.optional_inj, signedString_inj, Int32.toInt_inj,
    ResourceLimits.affinity_inj]

theorem StreamBehavior.label_inj {a b : StreamBehavior} : a.label = b.label ↔ a = b := by
  cases a <;> cases b <;> decide

theorem Environment.shown_inj {a b : Environment} :
    (a.entries.map fun e => (Shown.text e.1, Shown.text e.2)) =
      (b.entries.map fun e => (Shown.text e.1, Shown.text e.2)) ↔ a = b := by
  constructor
  · intro same
    apply Environment.ext
    refine (List.map_inj_right ?_).1 same
    intro e e' h
    obtain ⟨hname, hvalue⟩ := Prod.mk.inj h
    exact Prod.ext (Shown.text.inj hname) (Shown.text.inj hvalue)
  · intro h
    rw [h]

theorem ProcessConfig.args_inj {a b : List String} : a.map Shown.text = b.map Shown.text ↔ a = b :=
  List.map_inj_right fun _ _ h => Shown.text.inj h

theorem ProcessConfig.shown_inj {c d : ProcessConfig} : c.shown = d.shown ↔ c = d := by
  cases c
  cases d
  simp [ProcessConfig.shown, ProcessConfig.args_inj, Environment.shown_inj,
    StreamBehavior.label_inj, ResourceLimits.shown_inj]

/-- Of a secret, the text shown for it tells only whether it is empty. -/
theorem redact_eq_iff {a b : String} : redact a = redact b ↔ (a = "" ↔ b = "") := by
  simp only [redact, String.isEmpty_iff]
  by_cases ha : a = ""
  · by_cases hb : b = ""
    · simp [ha, hb]
    · simp [ha, hb]
  · by_cases hb : b = ""
    · simp [ha, hb]
    · simp [ha, hb]

/-! ## Profiles with the same text -/

/-- Two profiles agree on everything except their secrets, and on which of the secrets are empty. -/
structure LaunchProfile.AgreeOutsideSecrets (p q : LaunchProfile) : Prop where
  context : p.context = q.context
  password : p.password = "" ↔ q.password = ""
  encryptionKey : p.encryptionKey = "" ↔ q.encryptionKey = ""
  executable : p.executable = q.executable
  config : p.config = q.config

/-- What is shown of a profile is what it holds, without the secrets that are not empty. -/
theorem LaunchProfile.shown_eq_iff {p q : LaunchProfile} :
    p.shown = q.shown ↔ p.AgreeOutsideSecrets q := by
  have fields : p.shown = q.shown ↔ p.context = q.context ∧ (p.password = "" ↔ q.password = "") ∧
      (p.encryptionKey = "" ↔ q.encryptionKey = "") ∧ p.executable = q.executable ∧
      p.config = q.config := by
    simp only [LaunchProfile.shown, Shown.record.injEq, List.cons.injEq, Prod.mk.injEq, true_and,
      and_true, Shown.text.injEq, SessionContext.shown_inj, redact_eq_iff, ProcessConfig.shown_inj]
  rw [fields]
  constructor
  · rintro ⟨context, password, encryptionKey, executable, config⟩
    exact ⟨context, password, encryptionKey, executable, config⟩
  · intro agree
    exact ⟨agree.context, agree.password, agree.encryptionKey, agree.executable, agree.config⟩

namespace CommandLine

variable {p : LaunchProfile}

/-- A run of the command that prints a profile opened this profile and had this result. -/
def Inspected (p : LaunchProfile) (result : Except Failure Finished) : Prop :=
  ∃ settings profile strict host,
    ((openProfile (if strict then .strict else settings.decodePolicy) profile).run host).1 = .ok p ∧
      result = ((inspect settings profile strict).run host).1

/-- A profile that was opened is printed in many lines. -/
theorem Inspected.eq_printing {result : Except Failure Finished} (h : Inspected p result) :
    result = .ok (.printing (p.prettyText ++ "\n")) := by
  obtain ⟨settings, profile, strict, host, opened, rfl⟩ := h
  rw [inspect, run_bind]
  rcases opening : (openProfile (if strict then .strict else settings.decodePolicy) profile).run host
    with ⟨e | p', between⟩
  · rw [opening] at opened
    cases opened
  · rw [opening] at opened
    cases opened
    rfl

end CommandLine

open CommandLine (Inspected)

/-- Two profiles have the same text in one line if and only if they agree on everything except their
secrets and on which secrets are empty. Such profiles have the same text in many lines as well, and
are printed alike by the command that prints a profile. -/
theorem LaunchProfile.text_tells_all_but_secrets (p q : LaunchProfile) :
    (p.inlineText = q.inlineText ↔ p.AgreeOutsideSecrets q) ∧
      (p.AgreeOutsideSecrets q → p.prettyText = q.prettyText ∧
        ∀ printed printed', Inspected p printed → Inspected q printed' → printed = printed') := by
  constructor
  · rw [LaunchProfile.inlineText, LaunchProfile.inlineText, String.ofList_inj,
      p.plain_shown.inline_inj q.plain_shown, LaunchProfile.shown_eq_iff]
  · intro agree
    have same : p.prettyText = q.prettyText := by
      rw [LaunchProfile.prettyText, LaunchProfile.prettyText,
        LaunchProfile.shown_eq_iff.2 agree]
    refine ⟨same, ?_⟩
    intro printed printed' first second
    rw [first.eq_printing, second.eq_printing, same]

/-- A profile with a key text and nothing else. -/
def keyedProfile (key : String) : LaunchProfile :=
  { encryptionKey := key, config := { environment := .ofList [] } }

/-- A host with a file that holds such a profile. -/
def keyedHost (key : String) : CommandLine.Host where
  files :=
    { nodes := [(["p"], .file (keyedProfile key).toBytes 0o600)]
      workingFolder := []
      umask := 0o022 }
  entropy := []

theorem inspected_keyedProfile (key : String) :
    Inspected (keyedProfile key) ((CommandLine.inspect {} "p" false).run (keyedHost key)).1 := by
  have stored : (keyedHost key).files.openNode "p" =
      .ok (.file (keyedProfile key).toBytes 0o600) := rfl
  have opened : (CommandLine.openProfile .bestEffort "p").run (keyedHost key) =
      (.ok (keyedProfile key), keyedHost key) :=
    CommandLine.run_openProfile_eq_ok.2 ⟨_, stored, CommandLine.readProfile_stored _ _ _, rfl⟩
  exact ⟨{}, "p", false, keyedHost key, congrArg Prod.fst opened, rfl⟩

/-- Two profiles that differ in their key texts only. -/
theorem LaunchProfile.text_tells_all_but_secrets_two_keys :
    (keyedProfile "k|v").AgreeOutsideSecrets (keyedProfile "w|v") ∧
      (keyedProfile "k|v").inlineText = (keyedProfile "w|v").inlineText ∧
      (keyedProfile "k|v").prettyText = (keyedProfile "w|v").prettyText ∧
      ((CommandLine.inspect {} "p" false).run (keyedHost "k|v")).1 =
        ((CommandLine.inspect {} "p" false).run (keyedHost "w|v")).1 := by
  have agree : (keyedProfile "k|v").AgreeOutsideSecrets (keyedProfile "w|v") :=
    ⟨rfl, Iff.rfl, by decide, rfl, rfl⟩
  obtain ⟨inOneLine, elsewhere⟩ :=
    text_tells_all_but_secrets (keyedProfile "k|v") (keyedProfile "w|v")
  obtain ⟨inManyLines, printed⟩ := elsewhere agree
  exact ⟨agree, inOneLine.2 agree, inManyLines,
    printed _ _ (inspected_keyedProfile _) (inspected_keyedProfile _)⟩

end SessionHandoff
