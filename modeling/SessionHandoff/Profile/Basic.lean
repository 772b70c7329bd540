import SessionHandoff.Profile.Limits

/-!
# Launch profiles

A launch profile says everything that is needed to start one session: whose session it is, the
program, its arguments, environment, input and limits. It also carries two secrets, at most one of
which is meant to be set: the password, before it is encrypted and after it is recovered, and the
key text that recovers it from a ciphertext that travels elsewhere.
-/

set_option autoImplicit false

namespace SessionHandoff

/-- The variables of a process, each name once, in ascending order. -/
structure Environment where
  entries : List (String × String) := []
  ascending : Entries.Ascending entries := by exact List.Pairwise.nil

namespace Environment

@[ext] theorem ext {a b : Environment} (h : a.entries = b.entries) : a = b := by
  cases a; cases b; cases h; rfl

instance : DecidableEq Environment := fun a b =>
  if h : a.entries = b.entries then isTrue (ext h) else isFalse fun e => h (congrArg _ e)

instance : Repr Environment := ⟨fun e p => reprPrec e.entries p⟩

instance : Inhabited Environment := ⟨{}⟩

/-- The environment with the given variables; of entries with one name the last one counts. -/
def ofList (entries : List (String × String)) : Environment :=
  ⟨Entries.ofList entries, Entries.ofList_ascending entries⟩

end Environment

/-- What happens to the output of a session. -/
inductive StreamBehavior where
  /-- It goes where the output of the launcher goes. -/
  | inherit
  /-- The launcher collects it. -/
  | capture
  /-- It is thrown away. -/
  | discard
deriving DecidableEq, Repr, Inhabited

namespace StreamBehavior

/-- The number that is written for a behavior. -/
def toWire : StreamBehavior → Int
  | .inherit => 0
  | .capture => 1
  | .discard => 2

/-- The behavior that a number stands for. -/
def ofWire? (n : Int) : Option StreamBehavior :=
  if n = 0 then some .inherit
  else if n = 1 then some .capture
  else if n = 2 then some .discard
  else none

/-- The name of a behavior. -/
def label : StreamBehavior → String
  | .inherit => "Inherit"
  | .capture => "Capture"
  | .discard => "Null"

/-- A number stands for a behavior exactly when it is the number written for it. -/
theorem ofWire?_eq_some_iff {n : Int} {b : StreamBehavior} : ofWire? n = some b ↔ n = b.toWire := by
  unfold ofWire?
  cases b <;> simp only [toWire] <;> (repeat' split) <;> simp_all

end StreamBehavior

/-- The workspace of a session: a project and an identifier in it. -/
structure SessionScope where
  project : String := ""
  id : String := ""
deriving DecidableEq, Repr, Inhabited

/-- Whose session it is, and where. -/
structure SessionContext where
  username : String := ""
  scope : SessionScope := {}
deriving DecidableEq, Repr, Inhabited

/-- How the process of a session is started. -/
structure ProcessConfig where
  args : List String := []
  environment : Environment := {}
  /-- What the process reads as its standard input. -/
  stdInput : String := ""
  streams : StreamBehavior := .inherit
  limits : ResourceLimits := {}
deriving DecidableEq, Repr, Inhabited

/-- Everything that is needed to start one session. -/
structure LaunchProfile where
  context : SessionContext := {}
  password : String := ""
  /-- The key text: key and initial vector in base64 with a separator between them. -/
  encryptionKey : String := ""
  executable : String := ""
  config : ProcessConfig := {}
deriving DecidableEq, Repr, Inhabited

namespace LaunchProfile

/-- Whether the password has been exchanged for a key text. -/
def isEncrypted (p : LaunchProfile) : Bool :=
  p.password.isEmpty && !p.encryptionKey.isEmpty

/-- Whether the profile may be written: it carries no password. -/
def isTransmittable (p : LaunchProfile) : Bool :=
  p.password.isEmpty

/-- The profile as its reader sees it. -/
def wireNormalized (p : LaunchProfile) : LaunchProfile :=
  { p with config := { p.config with limits := p.config.limits.wireNormalized } }

end LaunchProfile

end SessionHandoff
