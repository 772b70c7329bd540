import SessionHandoff.Cipher.Base64
import SessionHandoff.Failure.System
import SessionHandoff.Profile.WireField

/-!
# Failures of a handoff

Every operation on profiles, passwords, settings and sessions fails with a `LaunchError`, which
names the cause. Wordings are made from causes in one place, `LaunchError.message`. The wording of a
failed encryption or decryption shows lengths, offsets and at most one offending byte.
-/

set_option autoImplicit false

namespace SessionHandoff

/-- A failure of the random source, the cipher, or the text form of either. -/
inductive CryptoError where
  | randomSource
  | base64 (e : Base64.DecodeError)
  | cipher
  | keyLength (expected actual : Nat)
  | notText
deriving DecidableEq, Repr

/-- The wording of a failure. -/
def CryptoError.message : CryptoError → String
  | .randomSource => "Secure random generation failed"
  | .base64 e => "Base64 decode failed: " ++ e.message
  | .cipher => "Cipher operation failed"
  | .keyLength expected actual =>
    "Invalid key length: expected " ++ Text.decimalString expected ++ " bytes, got " ++
      Text.decimalString actual
  | .notText => "Decrypted data is not valid UTF-8"

/-- The number of processors that an affinity can name. -/
def affinityCapacity : Nat := 1024

/-- Settings, or a profile taken as settings, that cannot be used. -/
inductive ConfigFault where
  | unreadable (e : IoError)
  | malformed
  | unknownPolicy (text : String)
  | exposedSecretMode (mode : UInt32)
  | noExecutable
  | processorOutOfRange (cpu : Nat)
deriving DecidableEq, Repr

/-- The wording of a fault. -/
def ConfigFault.message : ConfigFault → String
  | .unreadable e => "Failed to read config file: " ++ e.message
  | .malformed => "Failed to parse config JSON"
  | .unknownPolicy text => "Unknown decode policy: " ++ text
  | .exposedSecretMode mode =>
    "secret_file_mode " ++ String.ofList (Text.octal mode.toNat) ++ " grants group/other access"
  | .noExecutable => "Profile has no executable path"
  | .processorOutOfRange cpu =>
    "CPU " ++ Text.decimalString cpu ++ " outside supported affinity range (" ++
      Text.decimalString affinityCapacity ++ "): " ++ Errno.invalidArgument.withSymbol

/-- A limit that the kernel refused. -/
inductive LimitRefusal where
  | resource (name : String) (value : UInt64) (e : Errno)
  | priority (value : Int32) (e : Errno)
  | affinity (e : Errno)
deriving DecidableEq, Repr

/-- The call that was refused. -/
def LimitRefusal.subject : LimitRefusal → String
  | .resource name value _ => "Failed to apply " ++ name ++ "=" ++ Text.decimalString value.toNat
  | .priority value _ => "Failed to set priority " ++ Text.signedString value.toInt
  | .affinity _ => "Failed to set CPU affinity"

/-- The reason of the refusal; a refused priority is worded with its number. -/
def LimitRefusal.reason : LimitRefusal → String
  | .resource _ _ e | .affinity e => e.withSymbol
  | .priority _ e => e.withNumber

/-- A profile that cannot be parsed, a process that cannot be started as it should, or hooks around
forks that the platform did not take. -/
inductive ProcessFault where
  | malformedProfile
  | notStarted (program : String) (e : IoError)
  | refused (r : LimitRefusal)
  | hooksRefused (e : Errno)
deriving DecidableEq, Repr

/-- The wording of a fault. -/
def ProcessFault.message : ProcessFault → String
  | .malformedProfile => "failed to parse profile json"
  | .notStarted program e => "failed to spawn " ++ program ++ ": " ++ e.message
  | .refused r => r.subject ++ ": " ++ r.reason
  | .hooksRefused e => "pthread_atfork failed: " ++ e.withNumber

/-- Why an operation failed. -/
inductive LaunchError where
  | io (e : IoError)
  | config (f : ConfigFault)
  | field (f : FieldFault)
  | invalidKeyFormat
  | crypto (e : CryptoError)
  | plaintextPassword
  | process (f : ProcessFault)
  | alreadyInitialized
deriving DecidableEq, Repr

namespace LaunchError

/-- The wording of a failure. -/
def message : LaunchError → String
  | .io e => "IO error: " ++ e.message
  | .config f => "Configuration error: " ++ f.message
  | .field f => f.message
  | .invalidKeyFormat => "Profile password encryption key invalid format"
  | .crypto e => "Crypto error: " ++ e.message
  | .plaintextPassword => "Profile still carries a plaintext password"
  | .process f => "Process error: " ++ f.message
  | .alreadyInitialized => "Main thread identity already initialized"

/-- The wordings of a failure and of the causes below it, outermost first. -/
def chain : LaunchError → List String
  | .io e => [message (.io e), e.message]
  | .crypto (.base64 e) =>
    [message (.crypto (.base64 e)), CryptoError.message (.base64 e), e.message]
  | .crypto e => [message (.crypto e), e.message]
  | e => [e.message]

end LaunchError

/-! ## Records of what went wrong and was passed over -/

/-- How grave a record is. -/
inductive Severity where
  | warning | error
deriving DecidableEq, Repr

/-- One line of the log. -/
structure LogRecord where
  severity : Severity
  message : String
deriving DecidableEq, Repr

/-- The severity and the message in one line. -/
def LogRecord.line (r : LogRecord) : String :=
  (match r.severity with
    | .warning => "WARN "
    | .error => "ERROR ") ++ r.message

end SessionHandoff
