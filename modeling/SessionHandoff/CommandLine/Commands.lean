import SessionHandoff.CommandLine.Failure
import SessionHandoff.CommandLine.Usage
import SessionHandoff.Launch.Session
import SessionHandoff.Password.Exchange
import SessionHandoff.Profile.Display
import SessionHandoff.Profile.Transfer
import SessionHandoff.Storage.Settings

/-!
# Commands

A run of the program takes the files of its host, its supply of random bytes and the value of the
policy variable, and ends with a code and output. `run` is the whole program as a function:

* `encrypt` exchanges the password of a profile for a key text, writes the ciphertext to a new file,
  then the profile to another file or to the standard output;
* `decrypt` checks that a profile and a ciphertext give the password back, and tells its length;
* `inspect` prints a profile;
* `launch` starts the session of a profile and ends with its code.

The settings are loaded before anything else. A command stops at the first failure; what it wrote
before stays.
-/

set_option autoImplicit false

namespace SessionHandoff.CommandLine

/-- What a run works on. -/
structure Host where
  files : FileTree
  entropy : Entropy
  /-- The value of the policy variable, if it is set. -/
  policyValue : Option Bytes := none

/-- How a run ended. -/
structure Finished where
  code : Nat
  output : List (OutStream × Bytes) := []
deriving Repr

namespace Finished

/-- All that was written on a stream. -/
def written (f : Finished) (stream : OutStream) : Bytes :=
  (f.output.filter fun piece => piece.1 == stream).flatMap (·.2)

/-- A run that printed a text and ended well. -/
def printing (text : String) : Finished :=
  ⟨0, [(.out, Utf8.ofString text)]⟩

end Finished

/-- A step of a command. What it changed stays changed when it fails. -/
abbrev CommandM := ExceptT Failure (StateM Host)

namespace CommandM

/-- The result of an operation whose failure is explained. -/
def explained {α : Type} (explain : LaunchError → Failure) : Except LaunchError α → CommandM α
  | .ok a => pure a
  | .error e => throw (explain e)

/-- Change the files. -/
def changeFiles {α : Type} (f : FileTree → FileTree × α) : CommandM α := do
  let host ← get
  let r := f host.files
  set { host with files := r.1 }
  return r.2

end CommandM

open CommandM

/-! ## Steps -/

/-- Load the settings of a run. -/
def loadSettings (path : Option String) : CommandM Settings := do
  let host ← get
  explained .plain (match path with
    | some p => Settings.loadFile host.files host.policyValue p
    | none => Settings.loadDefault host.files host.policyValue)

/-- An open node as a source. -/
def sourceOf (node : Node) : ByteSource :=
  match node.content with
  | .ok bytes => .ofBytes bytes
  | .error e => ⟨[], some e⟩

/-- Open and read a profile. -/
def openProfile (policy : DecodePolicy) (path : String) : CommandM LaunchProfile := do
  match (← get).files.openNode path with
  | .error e => throw (.access (.openingProfile path) e)
  | .ok node =>
    explained (.during (.decodingProfile path)) (readProfile policy (sourceOf node)).result

/-- Use the cipher device on a profile. Returns the result and the profile. -/
def withCustody {α : Type} (activity : Activity) (p : LaunchProfile) (act : CustodyM Entropy α) :
    CommandM (α × LaunchProfile) := do
  let host ← get
  let r := act.on ⟨p, host.entropy⟩
  set { host with entropy := r.2.device }
  let a ← explained (.during activity) r.1
  return (a, r.2.profile)

/-- The stream of the run that stands at a place, if the device there leads to one. -/
def streamAt? (files : FileTree) (place : Place) : Option OutStream :=
  match files.get? place with
  | some (.descriptor 1) => some .out
  | some (.descriptor 2) => some .err
  | _ => none

/-- Write a profile to a file, which is made or emptied first. Returns what went to a stream of the
run instead. -/
def storeProfile (path : String) (p : LaunchProfile) : CommandM (List (OutStream × Bytes)) := do
  match (← get).files.createOrEmpty path with
  | .error e => throw (.access (.creatingFile path) e)
  | .ok (place, files) =>
    changeFiles fun _ => (files, ())
    let d := p.write {}
    explained .plain d.result
    let stored ← changeFiles fun files => files.append place d.arrived
    explained .plain (stored.mapError .io)
    return ((streamAt? files place).map fun s => (s, d.arrived)).toList

/-! ## Commands -/

/-- Exchange the password of a profile for a key text. -/
def encrypt (settings : Settings) (profile secretOut : String) (out : Option String) :
    CommandM Finished := do
  let p ← openProfile settings.decodePolicy profile
  let (ciphertext, p) ← withCustody .encryptingPassword p (encryptPassword CipherDevice.aesGcm)
  let written ← changeFiles fun files =>
    writeSecret files secretOut ciphertext settings.secretFileMode
  explained (.during (.writingSecret secretOut)) written
  match out with
  | some path => return ⟨0, ← storeProfile path p⟩
  | none =>
    let d := p.write {}
    explained .plain d.result
    return ⟨0, [(.out, d.arrived)]⟩

/-- Check that a profile and a ciphertext give the password back. -/
def decrypt (settings : Settings) (profile secret : String) : CommandM Finished := do
  let p ← openProfile settings.decodePolicy profile
  let ciphertext ← explained (.during (.readingSecret secret))
    (readSecret (← get).files secret)
  let (_, p) ← withCustody .decryptingPassword p (decryptPassword CipherDevice.aesGcm ciphertext)
  return .printing ("password recovered for " ++ p.context.username ++ " (" ++
    Text.decimalString p.password.length ++ " characters)\n")

/-- Print a profile. -/
def inspect (settings : Settings) (profile : String) (strict : Bool) : CommandM Finished := do
  let p ← openProfile (if strict then .strict else settings.decodePolicy) profile
  return .printing (p.prettyText ++ "\n")

/-- The code of a run whose session ended with a status. -/
def codeOf : ExitStatus → Nat
  | .code n => n
  | .signal _ => 1

/-- Start the session of a profile and wait for its end. -/
def launch (machine : Machine) (settings : Settings) (profile : String) (strictLimits : Bool) :
    CommandM Finished := do
  let p ← openProfile settings.decodePolicy profile
  let s ← explained .plain
    (runSession machine (← get).files p (strictLimits || settings.strictLimits))
  changeFiles fun _ => (s.files, ())
  return ⟨codeOf s.status, s.shared ++ [(.out, s.stdout), (.err, s.stderr)]⟩

/-- Do what was asked for. -/
def perform (machine : Machine) (request : Request) : CommandM Finished := do
  let settings ← loadSettings request.settings
  match request.command with
  | .encrypt profile secretOut out => encrypt settings profile secretOut out
  | .decrypt profile secret => decrypt settings profile secret
  | .inspect profile strict => inspect settings profile strict
  | .launch profile strictLimits => launch machine settings profile strictLimits

/-! ## Runs -/

/-- A run that asks for no command. -/
def stopped : Stop → Finished
  | .usage e => ⟨2, [(.err, Utf8.ofString (usageReport e))]⟩
  | .help command => .printing (helpText command)
  | .version => .printing (programName ++ " " ++ programVersion ++ "\n")

/-- A run that failed. -/
def failed (f : Failure) : Finished :=
  ⟨1, [(.err, Utf8.ofString f.report)]⟩

/-- A request on a host. -/
def runRequest (machine : Machine) (request : Request) (host : Host) : Finished × Host :=
  match (perform machine request).run host with
  | (.ok finished, host') => (finished, host')
  | (.error f, host') => (failed f, host')

/-- The program. -/
def run (machine : Machine) (arguments : List String) (host : Host) : Finished × Host :=
  match Request.ofArguments arguments with
  | .error stop => (stopped stop, host)
  | .ok request => runRequest machine request host

end SessionHandoff.CommandLine
