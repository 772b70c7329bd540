import SessionHandoff.Profile.Basic
import SessionHandoff.Text.Blank

/-!
# Exposed passwords

A text reveals a password when the password is one of its tokens, or the part of a token after its
first equals sign. Tokens are what stands between blank characters and quotes, so a short password
is not found inside a longer word. A password that holds a blank character is never one token; it is
revealed by every text that contains it.
-/

set_option autoImplicit false

namespace SessionHandoff

/-- Whether the character ends a token. -/
def isDelimiter (c : Char) : Bool :=
  Text.isBlank c || c == '\'' || c == '"'

/-- The tokens of a text; between two delimiters that touch stands an empty one. -/
def tokens : List Char → List (List Char)
  | [] => [[]]
  | c :: rest =>
    if isDelimiter c then [] :: tokens rest
    else
      match tokens rest with
      | [] => [[c]]
      | token :: more => (c :: token) :: more

/-- What follows the first equals sign. -/
def afterEquals? : List Char → Option (List Char)
  | [] => none
  | c :: rest => if c = '=' then some rest else afterEquals? rest

/-- Whether a text contains another. -/
def containsText (text part : List Char) : Bool :=
  part.isPrefixOf text ||
    match text with
    | [] => false
    | _ :: rest => containsText rest part

/-- Whether a text reveals a password. -/
def revealsPassword (text password : String) : Bool :=
  let p := password.toList
  if p.any Text.isBlank then containsText text.toList p
  else (tokens text.toList).any fun token => token == p || afterEquals? token == some p

/-- Whether the data that a session is started with reveals a password. -/
def ProcessConfig.reveals (c : ProcessConfig) (password : String) : Bool :=
  c.args.any (revealsPassword · password) ||
    c.environment.entries.any
      (fun e => revealsPassword e.1 password || revealsPassword e.2 password) ||
    revealsPassword c.stdInput password

/-- Whether the profile has a password that its own data reveals. -/
def LaunchProfile.exposesPassword (p : LaunchProfile) : Bool :=
  !p.password.isEmpty && p.config.reveals p.password

end SessionHandoff
