import SessionHandoff.Text.Digits

/-!
# The fields of a written profile

A written profile is one object with two objects in it. Each of its twenty fields has a key and
belongs to one of the three objects. Writing and reading take the keys from here. `readingOrder`
is the order in which fields are read and their faults reported.
-/

set_option autoImplicit false

namespace SessionHandoff

/-- The three objects of a written profile. -/
inductive Scope where
  | profile | context | config
deriving DecidableEq, Repr

/-- The name of an object in faults. -/
def Scope.label : Scope → String
  | .profile => "profile"
  | .context => "context"
  | .config => "config"

/-- The fields of a written profile. -/
inductive WireField where
  | context | password | encryptionKey | executable | config
  | username | project | id
  | args | environment | stdInput | streams
  | priority | memoryBytes | stackBytes | userProcesses | cpuSeconds | nice | openFiles
  | cpuAffinity
deriving DecidableEq, Repr

namespace WireField

/-- The object that holds the field. -/
def scope : WireField → Scope
  | .context | .password | .encryptionKey | .executable | .config => .profile
  | .username | .project | .id => .context
  | _ => .config

/-- The key of the field. -/
def key : WireField → String
  | .context => "context"
  | .password => "password"
  | .encryptionKey => "encryptionKey"
  | .executable => "executablePath"
  | .config => "config"
  | .username => "username"
  | .project => "project"
  | .id => "id"
  | .args => "args"
  | .environment => "environment"
  | .stdInput => "stdInput"
  | .streams => "stdStreamBehavior"
  | .priority => "priority"
  | .memoryBytes => "memoryLimitBytes"
  | .stackBytes => "stackLimitBytes"
  | .userProcesses => "userProcessesLimit"
  | .cpuSeconds => "cpuLimit"
  | .nice => "niceLimit"
  | .openFiles => "filesLimit"
  | .cpuAffinity => "cpuAffinity"

/-- The fields in the order in which they are read. -/
def readingOrder : List WireField :=
  [.context, .password, .encryptionKey, .executable, .config,
    .username, .project, .id,
    .args, .environment, .stdInput, .streams,
    .priority, .memoryBytes, .stackBytes, .userProcesses, .cpuSeconds, .nice, .openFiles,
    .cpuAffinity]

end WireField

/-! ## Faults -/

/-- What a field should hold. -/
inductive Expectation where
  | text | integer | natural | object | array | textArray | textObject
deriving DecidableEq, Repr

/-- The wording of an expectation. -/
def Expectation.label : Expectation → String
  | .text => "string"
  | .integer => "integer"
  | .natural => "unsigned integer"
  | .object => "object"
  | .array => "array"
  | .textArray => "array of strings"
  | .textObject => "object of strings"

/-- What is wrong with a field. -/
inductive FieldProblem where
  /-- The field, or the object that should hold it, is not there. -/
  | missing
  | mistyped (expected : Expectation)
  /-- An integer that means nothing to the field. -/
  | outOfRange (value : Int)
  /-- The element at the index is neither true nor false. -/
  | notFlag (index : Nat)
deriving DecidableEq, Repr

/-- A field that cannot be read. -/
structure FieldFault where
  field : WireField
  problem : FieldProblem
deriving DecidableEq, Repr

/-- The wording of a fault. It shows numbers of the profile, never a text of it. -/
def FieldFault.message (f : FieldFault) : String :=
  let place := "Failed to decode " ++ f.field.scope.label ++ "." ++ f.field.key ++ ": "
  match f.problem with
  | .missing => place ++ "field is missing"
  | .mistyped expected => place ++ "expected " ++ expected.label
  | .outOfRange value => place ++ "value " ++ Text.signedString value ++ " out of range"
  | .notFlag index =>
    "Parameter type mismatch: " ++ f.field.key ++ "[" ++ Text.decimalString index ++
      "] is not a boolean"

end SessionHandoff
