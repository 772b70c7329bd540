import SessionHandoff.Profile.Basic
import SessionHandoff.Text.Shown

/-!
# Profiles shown to people

A profile is shown with everything it holds except its two secrets. Of a secret the text says only
whether it is empty.
-/

set_option autoImplicit false

namespace SessionHandoff

open Text (Shown)

/-- What is shown for a secret. -/
def redact (secret : String) : String :=
  if secret.isEmpty then "" else "<redacted>"

/-- The shown form of a context. -/
def SessionContext.shown (c : SessionContext) : Shown :=
  .record "SessionContext" [
    ("username", .text c.username),
    ("scope", .record "SessionScope" [
      ("project", .text c.scope.project),
      ("id", .text c.scope.id)])]

/-- The shown form of limits. -/
def ResourceLimits.shown (l : ResourceLimits) : Shown :=
  .record "ResourceLimits" [
    ("priority", .word (Text.signedString l.priority.toInt)),
    ("memory_limit_bytes", .optional l.memoryBytes),
    ("stack_limit_bytes", .optional l.stackBytes),
    ("user_processes_limit", .optional l.userProcesses),
    ("cpu_limit", .optional l.cpuSeconds),
    ("nice_limit", .optional l.nice),
    ("files_limit", .optional l.openFiles),
    ("cpu_affinity", .list (l.cpuAffinity.map fun b => .word (if b then "true" else "false")))]

/-- The shown form of the settings of a process. -/
def ProcessConfig.shown (c : ProcessConfig) : Shown :=
  .record "ProcessConfig" [
    ("args", .list (c.args.map .text)),
    ("environment", .map (c.environment.entries.map fun e => (.text e.1, .text e.2))),
    ("std_input", .text c.stdInput),
    ("std_stream_behavior", .word c.streams.label),
    ("limits", c.limits.shown)]

/-- The shown form of a profile. -/
def LaunchProfile.shown (p : LaunchProfile) : Shown :=
  .record "SessionLaunchProfile" [
    ("context", p.context.shown),
    ("password", .text (redact p.password)),
    ("encryption_key", .text (redact p.encryptionKey)),
    ("executable_path", .text p.executable),
    ("config", p.config.shown)]

/-- The profile in one line. -/
def LaunchProfile.inlineText (p : LaunchProfile) : String :=
  String.ofList p.shown.inline

/-- The profile in many lines. -/
def LaunchProfile.prettyText (p : LaunchProfile) : String :=
  String.ofList p.shown.pretty

end SessionHandoff
