import SessionHandoff.Shell.Syntax

/-!
# Where a script is read from

A script is read one character at a time. A word that is the name of an alias is replaced by the
text of the alias, which is read before the rest; the text lies on top of the rest as a layer, and
while it lies there the alias is not replaced again. A backslash before the end of a line joins two
lines, except between single quotes.

A reader that has met the end of the text remembers it, because more text may come later.
-/

set_option autoImplicit false

namespace SessionHandoff.Shell

/-- A token of a script. -/
inductive Token where
  | finish | newline | semicolon | background | both | either | pipe | opening | closing
  | endOfBranch | redirection | word
  | not | case | do_ | done | elif | else_ | esac | fi | for_ | if_ | in_ | then_ | until_ | while_
  | begin_ | end_
deriving DecidableEq, Repr, Inhabited

namespace Token

/-- The tokens that stand for words, with their words. -/
def keywords : List (String × Token) :=
  [("!", .not), ("case", .case), ("do", .do_), ("done", .done), ("elif", .elif),
    ("else", .else_), ("esac", .esac), ("fi", .fi), ("for", .for_), ("if", .if_), ("in", .in_),
    ("then", .then_), ("until", .until_), ("while", .while_), ("\x7b", .begin_), ("\x7d", .end_)]

/-- The tokens that have names of their own, and the others with their signs. -/
def labels : List (Token × String) :=
  [(.finish, "end of file"), (.newline, "newline"), (.redirection, "redirection"),
    (.word, "word"), (.semicolon, "\";\""), (.background, "\"&\""), (.both, "\"&&\""),
    (.either, "\"||\""), (.pipe, "\"|\""), (.opening, "\"(\""), (.closing, "\")\""),
    (.endOfBranch, "\";;\"")]

/-- How a complaint names the token. -/
def label (t : Token) : String :=
  match labels.lookup t with
  | some s => s
  | none => "\"" ++ ((keywords.find? fun e => e.2 == t).map (·.1)).getD "" ++ "\""

/-- Whether a list of commands can end before the token. -/
def endsList : Token → Bool
  | .finish | .closing | .endOfBranch | .do_ | .done | .elif | .else_ | .esac | .fi | .then_
  | .end_ => true
  | _ => false

end Token

/-- Which words and ends of lines the next token may be. -/
structure Expecting where
  /-- Whether ends of lines are passed over. -/
  newlines : Bool := false
  keywords : Bool := false
  aliases : Bool := false
  /-- Whether the next word ends a document. -/
  endMark : Bool := false
deriving Repr, Inhabited

/-- A text that is being read. -/
structure Layer where
  text : List Char
  /-- The alias that the text comes from. -/
  alias? : Option String := none
  /-- Whether the text ended with a blank. -/
  endsBlank : Bool := false
deriving Repr, Inhabited

/-- A document that has been announced. -/
structure Announced where
  number : Nat
  expands : Bool
  mark : List Char
  stripsTabs : Bool
deriving Repr, Inhabited

/-- The state of a reader. -/
structure Reading where
  layers : List Layer
  line : Nat := 1
  aliases : List (String × String) := []
  /-- The aliases whose texts ended before the last character. -/
  leaving : List String := []
  /-- Whether the last token is to be read again. -/
  pushedBack : Bool := false
  last : Token := .finish
  expecting : Expecting := {}
  /-- The last word, and whether something in it was quoted. -/
  word : Word := []
  quoted : Bool := false
  /-- The last redirection, with nothing said about where it leads. -/
  redirection : Redirection := .duplicate 0 none
  /-- The documents that have been announced and not been read. -/
  announced : List Announced := []
  nextDocument : Nat := 0
  /-- The documents that were read. -/
  documents : List (Nat × Word) := []
  metEnd : Bool := false
deriving Inhabited

/-- What is wrong with a script, and where. -/
structure SyntaxError where
  line : Nat
  message : String
deriving Repr

/-- Reading. -/
abbrev ReadM := ExceptT SyntaxError (StateM Reading)

/-- Stop at an error. -/
def refuse {α : Type} (message : String) : ReadM α := do
  throw ⟨(← get).line, message⟩

/-- Stop at the last token. -/
def refuseToken {α : Type} (expected : Option Token := none) : ReadM α := do
  let unexpected := (← get).last.label ++ " unexpected"
  refuse (match expected with
    | none => unexpected
    | some t => unexpected ++ " (expecting " ++ t.label ++ ")")

/-! ## Characters -/

/-- The empty layers on top, and the other layers. The last layer stays. -/
def splitRead : List Layer → List Layer × List Layer
  | [] => ([], [])
  | [l] => ([], [l])
  | l :: rest =>
    if l.text.isEmpty then (l :: (splitRead rest).1, (splitRead rest).2) else ([], l :: rest)

/-- The next character. -/
def nextChar : ReadM (Option Char) := do
  let s ← get
  let (read, layers) := splitRead s.layers
  let s := { s with
    leaving := read.filterMap Layer.alias?
    expecting :=
      if read.any Layer.endsBlank then { s.expecting with aliases := true } else s.expecting }
  match layers with
  | { text := c :: text, alias?, endsBlank } :: below =>
    set { s with layers := ⟨text, alias?, endsBlank⟩ :: below }
    return some c
  | layers =>
    set { s with layers, metEnd := true }
    return none

/-- Read a character again. -/
def unread : Option Char → ReadM Unit
  | none => return
  | some c => modify fun s =>
    match s.layers with
    | [] => { s with layers := [⟨[c], none, false⟩] }
    | l :: below => { s with layers := { l with text := c :: l.text } :: below }

/-- A text without the joints between lines that it starts with, and their number. -/
def dropJoints : List Char → List Char × Nat
  | '\\' :: '\n' :: rest =>
    let r := dropJoints rest
    (r.1, r.2 + 1)
  | text => (text, 0)

/-- The next character that is no joint between lines. -/
def nextJoined : ReadM (Option Char) := do
  modify fun s =>
    match s.layers with
    | [] => s
    | l :: below =>
      let (text, joints) := dropJoints l.text
      { s with layers := { l with text } :: below, line := s.line + joints }
  nextChar

/-- A line has been read. -/
def countLine : ReadM Unit :=
  modify fun s => { s with line := s.line + 1 }

/-- How many characters are left. -/
def remaining : ReadM Nat := do
  return (← get).layers.foldl (fun n l => n + l.text.length) 0

/-- Put the text of an alias on top. -/
def pushAlias (name value : String) : ReadM Unit :=
  modify fun s =>
    let text := value.toList
    let endsBlank := match text.getLast? with
      | some c => c == ' ' || c == '\t'
      | none => false
    { s with layers := ⟨text, some name, endsBlank⟩ :: s.layers }

/-- The text of an alias that is not being read. -/
def aliasOf? (name : String) : ReadM (Option String) := do
  let s ← get
  if s.leaving.contains name || s.layers.any fun l => l.alias? == some name then return none
  return s.aliases.lookup name

end SessionHandoff.Shell
