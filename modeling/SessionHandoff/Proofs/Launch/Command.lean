import SessionHandoff.Proofs.Launch.Exposure

/-!
# What a command is made from

A profile gets a command unless it has no program, its own data reveals its password, or its
affinity names a processor beyond those that the kernel can name; these are looked for in this
order (`buildCommand_specified`). The command is determined by the program and the settings of the
profile, so the secrets of two profiles that agree on these can only decide whether there is one.
-/

set_option autoImplicit false

namespace SessionHandoff

/-! ## Exposure -/

/-- The texts that a session is started with. -/
inductive ProcessConfig.Passes (c : ProcessConfig) : String → Prop
  | argument {arg : String} (passed : arg ∈ c.args) : c.Passes arg
  | key {e : String × String} (set : e ∈ c.environment.entries) : c.Passes e.1
  | value {e : String × String} (set : e ∈ c.environment.entries) : c.Passes e.2
  | input : c.Passes c.stdInput

/-- The profile has a password, and a text that its session is started with reveals it. -/
def LaunchProfile.IsExposed (p : LaunchProfile) : Prop :=
  p.password ≠ "" ∧ ∃ text, p.config.Passes text ∧ revealsPassword text p.password = true

theorem ProcessConfig.reveals_iff {c : ProcessConfig} {password : String} :
    c.reveals password = true ↔ ∃ text, c.Passes text ∧ revealsPassword text password = true := by
  simp only [reveals, Bool.or_eq_true, List.any_eq_true]
  constructor
  · rintro ((⟨arg, passed, found⟩ | ⟨e, set, found | found⟩) | found)
    · exact ⟨arg, .argument passed, found⟩
    · exact ⟨e.1, .key set, found⟩
    · exact ⟨e.2, .value set, found⟩
    · exact ⟨c.stdInput, .input, found⟩
  · rintro ⟨_, passed | set | set | _, found⟩
    · exact .inl (.inl ⟨_, passed, found⟩)
    · exact .inl (.inr ⟨_, set, .inl found⟩)
    · exact .inl (.inr ⟨_, set, .inr found⟩)
    · exact .inr found

theorem LaunchProfile.exposesPassword_iff_isExposed {p : LaunchProfile} :
    p.exposesPassword = true ↔ p.IsExposed := by
  simp [exposesPassword, IsExposed, ProcessConfig.reveals_iff]

/-! ## Commands -/

/-- The command starts the program of a profile with its settings, and with nothing else. -/
structure SessionCommand.IsFor (c : SessionCommand) (p : LaunchProfile) (strict : Bool) : Prop where
  program : c.program = p.executable
  args : c.args = p.config.args
  environment : c.environment = p.config.environment
  input : ∀ text, c.input = some text ↔ text = p.config.stdInput ∧ text ≠ ""
  streams : c.streams = p.config.streams
  plan : ∀ plan, c.plan = some plan ↔
    LimitPlan.ofLimits p.config.limits = .ok plan ∧ p.config.limits.Asks
  strict : c.strict = strict

/-- What comes of a profile: the first thing that is in the way of a command, or a command. -/
inductive Builds (p : LaunchProfile) (strict : Bool) : Except LaunchError SessionCommand → Prop
  | noExecutable (empty : p.executable = "") : Builds p strict (.error (.config .noExecutable))
  | exposed (program : p.executable ≠ "") (exposed : p.IsExposed) :
      Builds p strict (.error .plaintextPassword)
  | outOfRange {cpu : Nat} (program : p.executable ≠ "") (hidden : ¬ p.IsExposed)
      (beyond : IsFirstBeyond p.config.limits.cpuAffinity cpu) :
      Builds p strict (.error (.config (.processorOutOfRange cpu)))
  | made {c : SessionCommand} (program : p.executable ≠ "") (hidden : ¬ p.IsExposed)
      (fits : ∀ cpu, NamesProcessor p.config.limits.cpuAffinity cpu → cpu < affinityCapacity)
      (command : c.IsFor p strict) : Builds p strict (.ok c)

section Commands

variable {p q : LaunchProfile} {strict : Bool} {c d : SessionCommand}
  {r s : Except LaunchError SessionCommand}

/-- A command is determined by the program and the settings of the profile that it is for. -/
theorem SessionCommand.IsFor.unique (made : c.IsFor p strict) (other : d.IsFor q strict)
    (program : p.executable = q.executable) (settings : p.config = q.config) : c = d := by
  -- the input and the plan are compared by what they may hold
  have input : c.input = d.input := by
    ext text
    rw [made.input, other.input, settings]
  have plan : c.plan = d.plan := by
    ext plan
    rw [made.plan, other.plan, settings]
  have program : c.program = d.program := by rw [made.program, other.program, program]
  have args : c.args = d.args := by rw [made.args, other.args, settings]
  have environment : c.environment = d.environment := by
    rw [made.environment, other.environment, settings]
  have streams : c.streams = d.streams := by rw [made.streams, other.streams, settings]
  have strict : c.strict = d.strict := by rw [made.strict, other.strict]
  cases c
  cases d
  exact SessionCommand.mk.injEq .. ▸ ⟨program, args, environment, input, streams, plan, strict⟩

/-- What comes of a profile is one thing only. -/
theorem Builds.unique (one : Builds p strict r) (other : Builds p strict s) : r = s := by
  cases one with
  | noExecutable empty => cases other <;> first | rfl | contradiction
  | exposed program exposed => cases other <;> first | rfl | contradiction
  | outOfRange program hidden beyond =>
    cases other with
    | noExecutable empty => contradiction
    | exposed _ exposed => contradiction
    | outOfRange _ _ second => rw [beyond.unique second]
    | made _ _ fits _ => exact absurd (fits _ beyond.named) (Nat.not_lt.2 beyond.beyond)
  | made program hidden fits command =>
    cases other with
    | noExecutable empty => contradiction
    | exposed _ exposed => contradiction
    | outOfRange _ _ beyond => exact absurd (fits _ beyond.named) (Nat.not_lt.2 beyond.beyond)
    | made _ _ _ second => rw [command.unique second rfl rfl]

theorem builds (p : LaunchProfile) (strict : Bool) : Builds p strict (buildCommand p strict) := by
  unfold buildCommand
  split
  · next empty => exact .noExecutable (by simpa using empty)
  · next program =>
    have program : p.executable ≠ "" := by simpa using program
    split
    · next exposed => exact .exposed program (LaunchProfile.exposesPassword_iff_isExposed.1 exposed)
    · next hidden =>
      rw [LaunchProfile.exposesPassword_iff_isExposed] at hidden
      cases made : LimitPlan.ofLimits p.config.limits with
      | error e =>
        -- limits have no plan only where a processor does not fit
        obtain ⟨cpu, rfl, beyond⟩ := LimitPlan.ofLimits_eq_error_iff.1 made
        exact .outOfRange program hidden beyond
      | ok plan =>
        obtain ⟨processors, set, -⟩ := map_eq_ok.1 made
        refine .made program hidden (fun cpu => lt_affinityCapacity_of_named set) ?_
        have asks := LimitPlan.isEmpty_iff made
        refine ⟨rfl, rfl, rfl, fun text => ?_, rfl, fun other => ?_, rfl⟩
        · rw [Option.ite_none_left_eq_some, Option.some.injEq, String.isEmpty_iff]
          constructor
          · rintro ⟨set, rfl⟩
            exact ⟨rfl, set⟩
          · rintro ⟨rfl, set⟩
            exact ⟨set, rfl⟩
        · rw [Option.ite_none_left_eq_some, asks, Classical.not_not, made, Option.some.injEq,
            Except.ok.injEq]
          exact and_comm

theorem buildCommand_eq_iff : buildCommand p strict = r ↔ Builds p strict r := by
  constructor
  · rintro rfl
    exact builds p strict
  · exact (builds p strict).unique

/-- Of two profiles with one program and the same settings, if the first gets a command then the
second gets the same one, unless its password is exposed. -/
theorem Builds.transfer (program : p.executable = q.executable) (settings : p.config = q.config)
    (made : Builds p strict (.ok c)) :
    buildCommand q strict = .ok c ∨ buildCommand q strict = .error .plaintextPassword := by
  cases made with
  | made executable hidden fits command =>
    -- nothing that the first profile was spared depends on its secrets, but for the exposure
    rw [program] at executable
    rw [settings] at fits
    have outcome := builds q strict
    generalize buildCommand q strict = r at outcome ⊢
    cases outcome with
    | noExecutable empty => contradiction
    | exposed => exact .inr rfl
    | outOfRange _ _ beyond => exact absurd (fits _ beyond.named) (Nat.not_lt.2 beyond.beyond)
    | made _ _ _ other =>
      rw [command.unique other program settings]
      exact .inl rfl

end Commands

/-- A session with an argument, a variable, an input and limits. -/
def sessionOfUser (username password encryptionKey : String) : LaunchProfile :=
  { context := { username }, password, encryptionKey, executable := "/bin/true"
    config :=
      { args := ["-n"], environment := .ofList [("HOME", "/")], stdInput := "text"
        limits := { memoryBytes := some 4096, cpuAffinity := [false, true] } } }

end SessionHandoff
