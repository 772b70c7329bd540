import SessionHandoff.Launch.Exposure
import SessionHandoff.Limits.Kernel

/-!
# Commands of sessions

A command is what a session is started with: the program, its arguments, the whole environment and
nothing inherited, what its standard streams are, and the limits of its process. It is made from the
program and the settings of a profile; the secrets of the profile can only prevent it.
-/

set_option autoImplicit false

namespace SessionHandoff

/-- What a session is started with. -/
structure SessionCommand where
  program : String
  args : List String
  environment : Environment
  /-- What is piped to the standard input; without it the standard input is empty. -/
  input : Option String
  streams : StreamBehavior
  /-- The limits that the new process applies to itself, if there are any. -/
  plan : Option LimitPlan
  /-- Whether a limit that is refused ends the new process. -/
  strict : Bool
deriving DecidableEq, Repr

/-- The command of a profile. -/
def buildCommand (p : LaunchProfile) (strict : Bool) : Except LaunchError SessionCommand :=
  if p.executable.isEmpty then .error (.config .noExecutable)
  else if p.exposesPassword then .error .plaintextPassword
  else
    (LimitPlan.ofLimits p.config.limits).map fun plan =>
      { program := p.executable
        args := p.config.args
        environment := p.config.environment
        input := if p.config.stdInput.isEmpty then none else some p.config.stdInput
        streams := p.config.streams
        plan := if plan.isEmpty then none else some plan
        strict }

end SessionHandoff
