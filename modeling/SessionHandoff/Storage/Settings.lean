import SessionHandoff.Json.Value
import SessionHandoff.Profile.Wire
import SessionHandoff.Storage.Secret

/-!
# Settings of the launcher

The settings say how profiles are decoded, whether every limit has to be applied, and which
permissions secret files get. They come from a JSON file; one variable of the environment overrides
the decode policy. Permissions for anybody but the owner are refused.

The file is read more leniently than a profile: fields it does not know are only checked for their
grammar. A field it knows may stand in it once.
-/

set_option autoImplicit false

namespace SessionHandoff

/-- The settings of the launcher. -/
structure Settings where
  decodePolicy : DecodePolicy := .bestEffort
  strictLimits : Bool := false
  secretFileMode : UInt32 := 0o600
deriving DecidableEq, Repr, Inhabited

/-! ## Decode policies as texts -/

namespace DecodePolicy

/-- The name of a policy in a settings file. -/
def label : DecodePolicy → String
  | .bestEffort => "best-effort"
  | .strict => "strict"

/-- The policy with a name, exactly as a settings file writes it. -/
def ofLabel? (s : String) : Option DecodePolicy :=
  if s = "best-effort" then some .bestEffort
  else if s = "strict" then some .strict
  else none

/-- The policy that a person's text names. Blank ends and capitals do not matter, and the first
policy has three spellings. -/
def ofText (s : String) : Except LaunchError DecodePolicy :=
  let name := String.ofList (Text.lowerAscii (Text.trim s.toList))
  if name = "best-effort" ∨ name = "best_effort" ∨ name = "besteffort" then .ok .bestEffort
  else if name = "strict" then .ok .strict
  else .error (.config (.unknownPolicy name))

/-- The policy of a tree: its name, or an object with its name as the only key and no content. -/
def ofTree? : Json.Tree → Option DecodePolicy
  | .text pieces => (Json.Piece.string? pieces).bind ofLabel?
  | .object [(key, .null)] => (Json.Piece.string? key).bind ofLabel?
  | _ => none

end DecodePolicy

/-! ## Settings as texts -/

namespace Settings

/-- The fields of a settings file. -/
inductive Field where
  | decodePolicy | strictLimits | secretFileMode
deriving DecidableEq, Repr

/-- The fields in the order in which an array gives them. -/
def Field.order : List Field := [.decodePolicy, .strictLimits, .secretFileMode]

/-- The field with a key. -/
def Field.ofKey? (key : String) : Option Field :=
  if key = "decode_policy" then some .decodePolicy
  else if key = "strict_limits" then some .strictLimits
  else if key = "secret_file_mode" then some .secretFileMode
  else none

/-- The permissions of a tree: an integer of 32 bits, written as one. -/
def modeOfTree? : Json.Tree → Option UInt32
  | .number n =>
    match n.integer? with
    | some (.ofNat m) => if m < 1 <<< 32 then some m.toUInt32 else none
    | _ => none
  | _ => none

/-- Settings with one field set. -/
def set? (s : Settings) (field : Field) (t : Json.Tree) : Option Settings :=
  match field with
  | .decodePolicy => (DecodePolicy.ofTree? t).map fun p => { s with decodePolicy := p }
  | .strictLimits =>
    match t with
    | .flag b => some { s with strictLimits := b }
    | _ => none
  | .secretFileMode => (modeOfTree? t).map fun m => { s with secretFileMode := m }

/-- Settings of the members of an object. The second argument holds the fields met before. -/
def ofMembers? : Settings → List Field → List (List Json.Piece × Json.Tree) → Option Settings
  | s, _, [] => some s
  | s, met, (key, t) :: rest =>
    (Json.Piece.string? key).bind fun k =>
      match Field.ofKey? k with
      | none => ofMembers? s met rest
      | some field =>
        if met.contains field then none
        else (s.set? field t).bind fun s' => ofMembers? s' (field :: met) rest

/-- Settings of the items of an array, which give the fields in order. -/
def ofItems? : Settings → List Field → List Json.Tree → Option Settings
  | s, _, [] => some s
  | _, [], _ :: _ => none
  | s, field :: fields, t :: rest => (s.set? field t).bind fun s' => ofItems? s' fields rest

/-- Settings of a tree. -/
def ofTree? : Json.Tree → Option Settings
  | .object members => ofMembers? {} [] members
  | .array items => ofItems? {} Field.order items
  | _ => none

/-- Settings of a text. -/
def parse? (text : String) : Option Settings :=
  (Json.Tree.read? none text.toList).bind ofTree?

/-! ## Loading -/

/-- The variable that overrides the decode policy. -/
def policyVariable : String := "SESSION_LAUNCH_DECODE_POLICY"

/-- The file that is looked for when none is named. -/
def defaultFile : String := "session-launch.json"

/-- Settings with the decode policy that the variable names. A value that is no text counts as
none. -/
def override (s : Settings) (policyValue : Option Bytes) : Except LaunchError Settings :=
  match policyValue.bind Utf8.toString? with
  | none => .ok s
  | some text => (DecodePolicy.ofText text).map fun p => { s with decodePolicy := p }

/-- The permissions of everybody but the owner. -/
def othersMask : UInt32 := 0o077

/-- Refuse permissions for anybody but the owner. -/
def validate (s : Settings) : Except LaunchError Settings :=
  if s.secretFileMode &&& othersMask = 0 then .ok s
  else .error (.config (.exposedSecretMode s.secretFileMode))

/-- Load settings from a file. -/
def loadFile (tree : FileTree) (policyValue : Option Bytes) (path : String) :
    Except LaunchError Settings :=
  match tree.readText path with
  | .error e => .error (.config (.unreadable e))
  | .ok text =>
    match parse? text with
    | none => .error (.config .malformed)
    | some s => (s.override policyValue).bind validate

/-- Load settings from the default file, or take the defaults where it does not exist. -/
def loadDefault (tree : FileTree) (policyValue : Option Bytes) : Except LaunchError Settings :=
  if tree.hasEntry defaultFile then loadFile tree policyValue defaultFile
  else override {} policyValue

end Settings

end SessionHandoff
