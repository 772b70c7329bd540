import SessionHandoff.Failure.Launch

/-!
# Reports of failures

A command that fails tells what it was doing and why, from the outside in: the activity, the failure
itself, and the causes below the failure. A single cause is set in by four columns; several are
numbered.
-/

set_option autoImplicit false

namespace SessionHandoff.CommandLine

/-- What a command was doing when it failed. -/
inductive Activity where
  | openingProfile (path : String)
  | decodingProfile (path : String)
  | encryptingPassword
  | writingSecret (path : String)
  | creatingFile (path : String)
  | readingSecret (path : String)
  | decryptingPassword
deriving DecidableEq, Repr

/-- The wording of a failed activity. -/
def Activity.message : Activity → String
  | .openingProfile path => "failed to open profile " ++ path
  | .decodingProfile path => "failed to decode profile " ++ path
  | .encryptingPassword => "failed to encrypt profile password"
  | .writingSecret path => "failed to write secret " ++ path
  | .creatingFile path => "failed to create " ++ path
  | .readingSecret path => "failed to read secret " ++ path
  | .decryptingPassword => "failed to decrypt profile password"

/-- Why a command failed: the failure of an operation, or of an activity because of one. -/
inductive Failure where
  | plain (e : LaunchError)
  | during (activity : Activity) (e : LaunchError)
  /-- An activity that touches files by itself. -/
  | access (activity : Activity) (e : IoError)
deriving DecidableEq, Repr

namespace Failure

/-- The wordings from the outside in. -/
def chain : Failure → List String
  | .plain e => e.chain
  | .during activity e => activity.message :: e.chain
  | .access activity e => [activity.message, e.message]

/-- The text with so many blanks before every line but the first. -/
def setIn (columns : Nat) (text : String) : String :=
  ("\n" ++ String.ofList (List.replicate columns ' ')).intercalate
    ((text.toList.splitOn '\n').map String.ofList)

/-- A number in a column of five. -/
def column (n : Nat) : String :=
  String.ofList (List.replicate (5 - (Text.decimal n).length) ' ') ++ Text.decimalString n

/-- The lines for causes. -/
def causeLines : List String → String
  | [] => ""
  | [cause] => "\n\nCaused by:\n    " ++ setIn 4 cause
  | causes =>
    "\n\nCaused by:" ++ String.join (causes.zipIdx.map fun (cause, n) =>
      "\n" ++ column n ++ ": " ++ setIn 7 cause)

/-- What is printed for a failure. -/
def report (f : Failure) : String :=
  match f.chain with
  | [] => "Error: \n"
  | head :: causes => "Error: " ++ head ++ causeLines causes ++ "\n"

end Failure

end SessionHandoff.CommandLine
