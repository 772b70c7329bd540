import SessionHandoff.Shell.WordReading

/-!
# Reading commands

Commands are read by descent: a list consists of pipelines, a pipeline of commands, and a command
holds lists again. The functions that read a list and a command inside another command are
parameters of the functions that read one, and are supplied for a bounded depth at the end.

`Script.next` reads one line of a script with all that belongs to it, so that a command can be run
before the next line is read.
-/

set_option autoImplicit false

namespace SessionHandoff.Shell

/-- The functions that read what stands inside a command. -/
structure Readers where
  /-- A list of commands. An empty list is allowed or not. -/
  list : Bool → ReadM (Option Command)
  command : ReadM Command

/-! ## Tokens -/

/-- Note the last token. -/
def noteToken (t : Token) : ReadM Token := do
  modify fun s => { s with last := t }
  return t

/-- The functions that read commands inside words. -/
def Readers.newCommand (r : Readers) : ReadM (Option Command) := do
  let around := (← get).announced
  modify fun s => { s with announced := [] }
  let body ← r.list true
  let closed := (← get).pushedBack && (← get).last = .closing
  if !closed then refuseToken (some .closing)
  modify fun s => { s with pushedBack := false, announced := around }
  return body

/-- Read the rest of a redirection after its first character. -/
def readRedirection (fd? : Option Nat) (first : Char) : ReadM Unit := do
  let next ← nextJoined
  let note (r : Redirection) : ReadM Unit := modify fun s => { s with redirection := r }
  if first = '>' then
    let fd := fd?.getD 1
    match next with
    | some '>' => note (.file fd .append [])
    | some '|' => note (.file fd .clobber [])
    | some '&' => note (.duplicateWord fd [])
    | _ =>
      unread next
      note (.file fd .output [])
  else
    let fd := fd?.getD 0
    match next with
    | some '<' =>
      let dash ← nextJoined
      let strips := dash = some '-'
      if !strips then unread dash
      modify fun s => { s with
        redirection := .document fd true s.nextDocument
        nextDocument := s.nextDocument + 1
        announced := s.announced ++ [⟨s.nextDocument, true, [], strips⟩] }
    | some '&' => note (.duplicateWord fd [])
    | some '>' => note (.file fd .both [])
    | _ =>
      unread next
      note (.file fd .input [])

/-- The number that a text before a redirection names. -/
def redirectedNumber? (w : Word) : Option (Option Nat) :=
  match w with
  | [] => some none
  | [.char c] => if c.isDigit then some (some (c.toNat - 48)) else none
  | _ => none

/-- Read a word from its first character on. -/
def readWord (r : Readers) (first : Option Char) : ReadM Token := do
  let (w, quoted, last) ← readText r.newCommand (r.list true) {} first
  match last, redirectedNumber? w with
  | some c, some fd? =>
    if (c = '<' || c = '>') && !quoted then
      readRedirection fd? c
      return ← noteToken .redirection
  | _, _ => pure ()
  unread last
  modify fun s => { s with word := w, quoted }
  noteToken .word

/-- Pass over a comment. -/
def dropComment : ReadM Unit :=
  modify fun s =>
    match s.layers with
    | l :: below => { s with layers := { l with text := l.text.dropWhile (· != '\n') } :: below }
    | [] => s

/-- Read a token, taking every word for a word. -/
def readPlainToken (r : Readers) : Nat → ReadM Token
  | 0 => noteToken .finish
  | fuel + 1 => do
    if (← get).pushedBack then
      modify fun s => { s with pushedBack := false }
      return (← get).last
    let followed (c : Char) (two one : Token) : ReadM Token := do
      let next ← nextJoined
      if next = some c then noteToken two
      else
        unread next
        noteToken one
    match ← nextJoined with
    | none => noteToken .finish
    | some c =>
      if c = ' ' || c = '\t' then readPlainToken r fuel
      else if c = '#' then
        dropComment
        readPlainToken r fuel
      else if c = '\n' then
        countLine
        noteToken .newline
      else if c = '&' then followed '&' .both .background
      else if c = '|' then followed '|' .either .pipe
      else if c = ';' then followed ';' .endOfBranch .semicolon
      else if c = '(' then noteToken .opening
      else if c = ')' then noteToken .closing
      else readWord r (some c)

/-- Read the documents that were announced, which start here. -/
def readDocuments (r : Readers) : ReadM Unit := do
  let announced := (← get).announced
  modify fun s => { s with announced := [] }
  for d in announced do
    let scan : Scan :=
      { level := if d.expands then { rules := .doubleQuoted, quoted := true }
          else { rules := .singleQuoted }
        ending := .mark d.mark d.stripsTabs }
    let first ← if d.expands then nextJoined else nextChar
    let (w, _, _) ← readText r.newCommand (r.list true) scan first
    modify fun s => { s with documents := (d.number, w) :: s.documents }

/-- Read tokens until one is no end of a line, if those are passed over. -/
def passNewlines (r : Readers) (pass : Bool) : Nat → Token → ReadM Token
  | 0, t => return t
  | fuel + 1, t => do
    if pass && t = .newline then
      readDocuments r
      modify fun s => { s with expecting := {} }
      passNewlines r pass fuel (← readPlainToken r (fuel + 1))
    else return t

/-- Read a token: a word may be a keyword, or the name of an alias, whose text is read instead. What
may be is what is being expected, for this token only. -/
def readTokenAs (r : Readers) : Nat → Expecting → ReadM Token
  | 0, _ => noteToken .finish
  | fuel + 1, expecting => do
    let t ← passNewlines r expecting.newlines (fuel + 1) (← readPlainToken r (fuel + 1))
    let more := (← get).expecting
    let expecting : Expecting :=
      { expecting with
        keywords := expecting.keywords || more.keywords
        aliases := expecting.aliases || more.aliases }
    modify fun s => { s with expecting := {} }
    let s ← get
    if t ≠ .word || s.quoted then return t
    match s.word.plain? with
    | none => return t
    | some text =>
      let name := String.ofList text
      if expecting.keywords then
        if let some k := Token.keywords.lookup name then return ← noteToken k
      if expecting.aliases then
        if let some value ← aliasOf? name then
          if !value.isEmpty then pushAlias name value
          return ← readTokenAs r fuel expecting
      return t

/-- Read a token. -/
def readToken (r : Readers) : ReadM Token := do
  let s ← get
  readTokenAs r ((← remaining) + 100 * (s.aliases.length + 1)) s.expecting

/-- Say what the next token may be. -/
def expect (e : Expecting) : ReadM Unit :=
  modify fun s => { s with expecting := e }

/-- Read the last token again. -/
def pushBack : ReadM Unit :=
  modify fun s => { s with pushedBack := true }

/-- Anything may follow. -/
def anything : Expecting := { newlines := true, keywords := true, aliases := true }

/-! ## Redirections -/

/-- Read where the last redirection leads. -/
def readTarget (r : Readers) : ReadM Redirection := do
  let redirection := (← get).redirection
  if let .document .. := redirection then expect { endMark := true }
  if (← readToken r) ≠ .word then refuseToken
  let s ← get
  match redirection with
  | .document fd _ number =>
    let text := s.word.filterMap fun
      | .char c | .escaped c => some c
      | _ => none
    let announced := s.announced.map fun (d : Announced) =>
      if d.number = number then { d with mark := text, expands := !s.quoted } else d
    set { s with announced }
    return .document fd (!s.quoted) number
  | .duplicateWord fd _ =>
    match s.word with
    | [.char c] =>
      if c.isDigit then return .duplicate fd (some (c.toNat - 48))
      else if c = '-' then return .duplicate fd none
      else return .duplicateWord fd s.word
    | w => return .duplicateWord fd w
  | .file fd direction _ => return .file fd direction s.word
  | r => return r

/-- Read redirections as long as they follow. -/
def readRedirections (r : Readers) : Nat → ReadM (List Redirection)
  | 0 => return []
  | fuel + 1 => do
    if (← readToken r) = .redirection then
      let first ← readTarget r
      return first :: (← readRedirections r fuel)
    pushBack
    return []

/-! ## Simple commands and functions -/

/-- The special commands, whose names no function can have. -/
def specialNames : List String :=
  [".", ":", "break", "continue", "eval", "exec", "exit", "export", "local", "readonly", "return",
    "set", "shift", "times", "trap", "unset"]

/-- What was read of a simple command. -/
structure SimpleParts where
  assignments : List Word := []
  words : List Word := []
  redirections : List Redirection := []
  /-- Whether every word so far was an assignment. -/
  assigning : Bool := true

/-- Read a simple command, or the definition of a function, from some point on. -/
def readSimpleFrom (r : Readers) (line : Nat) : Nat → SimpleParts → ReadM Command
  | 0, p => return .simple line p.assignments p.words p.redirections
  | fuel + 1, p => do
    let finish : ReadM Command := do
      pushBack
      return .simple line p.assignments p.words p.redirections
    expect { aliases := p.assigning }
    match ← readToken r with
    | .word =>
      let w := (← get).word
      if p.assigning && isAssignment w.leadingChars then
        readSimpleFrom r line fuel { p with assignments := p.assignments ++ [w] }
      else readSimpleFrom r line fuel { p with words := p.words ++ [w], assigning := false }
    | .redirection =>
      let target ← readTarget r
      readSimpleFrom r line fuel { p with redirections := p.redirections ++ [target] }
    | .opening =>
      match p with
      | ⟨[], [w], [], _⟩ =>
        if (← readToken r) ≠ .closing then refuseToken (some .closing)
        let name := (w.plain?.getD [])
        if !isName name || specialNames.contains (String.ofList name) then
          refuse "Bad function name"
        expect anything
        return .function (String.ofList name) (← r.command)
      | _ => finish
    | _ => finish

/-! ## Compound commands -/

/-- Refuse any token but one. -/
def readExactly (r : Readers) (t : Token) : ReadM Unit := do
  if (← readToken r) ≠ t then refuseToken (some t)

/-- Read a list that may not be empty. -/
def readBody (r : Readers) : ReadM Command := do
  return (← r.list false).getD default

/-- Read a conditional after its keyword. -/
def readConditional (r : Readers) : Nat → ReadM Command
  | 0 => refuseToken
  | fuel + 1 => do
    let test ← readBody r
    readExactly r .then_
    let body ← readBody r
    match ← readToken r with
    | .elif => return .conditional test body (some (← readConditional r fuel))
    | .else_ => return .conditional test body (some (← readBody r))
    | _ =>
      pushBack
      return .conditional test body none

/-- Read words as long as they follow. -/
def readWords (r : Readers) : Nat → ReadM (List Word)
  | 0 => return []
  | fuel + 1 => do
    if (← readToken r) = .word then
      let w := (← get).word
      return w :: (← readWords r fuel)
    return []

/-- Read a loop over words after its keyword. -/
def readForEach (r : Readers) (line : Nat) (fuel : Nat) : ReadM Command := do
  let t ← readToken r
  let s ← get
  let name := s.word.plain?.getD []
  if t ≠ .word || s.quoted || !isName name then refuse "Bad for loop variable"
  expect anything
  let words ← (do
    if (← readToken r) = .in_ then
      let words ← readWords r fuel
      let last := (← get).last
      if last ≠ .newline && last ≠ .semicolon then refuseToken
      return words
    else
      if (← get).last ≠ .semicolon then pushBack
      return [Word.arguments])
  expect anything
  readExactly r .do_
  let body ← readBody r
  return .forEach line (String.ofList name) words body

/-- Read patterns with bars between them. The first word has been read. -/
def readPatterns (r : Readers) : Nat → ReadM (List Word)
  | 0 => return []
  | fuel + 1 => do
    let w := (← get).word
    if (← readToken r) = .pipe then
      let _ ← readToken r
      return w :: (← readPatterns r fuel)
    return [w]

/-- Read the branches of a choice. -/
def readBranches (r : Readers) : Nat → ReadM (List (List Word × Option Command))
  | 0 => refuseToken
  | fuel + 1 => do
    expect { newlines := true, keywords := true }
    if (← readToken r) = .esac then return []
    if (← get).last = .opening then
      let _ ← readToken r
    let patterns ← readPatterns r fuel
    if (← get).last ≠ .closing then refuseToken (some .closing)
    let body ← r.list true
    expect { newlines := true, keywords := true }
    match ← readToken r with
    | .esac => return [(patterns, body)]
    | .endOfBranch => return (patterns, body) :: (← readBranches r fuel)
    | _ => refuseToken (some .endOfBranch)

/-- Read a choice after its keyword. -/
def readChoice (r : Readers) (line : Nat) (fuel : Nat) : ReadM Command := do
  if (← readToken r) ≠ .word then refuseToken (some .word)
  let w := (← get).word
  expect anything
  readExactly r .in_
  return .choice line w (← readBranches r fuel)

/-- A command with redirections. -/
def Command.redirectedBy (line : Nat) (redirections : List Redirection) (c : Command) : Command :=
  match redirections, c with
  | [], c => c
  | rs, .subshell line body _ => .subshell line body rs
  | rs, c => .redirected line c rs

/-- Read a command. -/
def readCommand (r : Readers) : ReadM Command := do
  let line := (← get).line
  let fuel := (← remaining) + 2
  let compound (c : ReadM Command) (last : Option Token) : ReadM Command := do
    let c ← c
    if let some t := last then readExactly r t
    expect { keywords := true, aliases := true }
    return c.redirectedBy line (← readRedirections r fuel)
  let loop (untilHolds : Bool) : ReadM Command := do
    let test ← readBody r
    readExactly r .do_
    return .loop untilHolds test (← readBody r)
  match ← readToken r with
  | .if_ => compound (readConditional r fuel) (some .fi)
  | .while_ => compound (loop false) (some .done)
  | .until_ => compound (loop true) (some .done)
  | .for_ => compound (readForEach r line fuel) (some .done)
  | .case => compound (readChoice r line fuel) none
  | .opening => compound (return .subshell line (← readBody r) []) (some .closing)
  | .begin_ => compound (readBody r) (some .end_)
  | .word | .redirection =>
    pushBack
    readSimpleFrom r (← get).line fuel {}
  | _ => refuseToken

/-! ## Lists -/

/-- Read commands with bars between them, after the first. -/
def readStages (r : Readers) : Nat → ReadM (List Command)
  | 0 => return []
  | fuel + 1 => do
    if (← readToken r) = .pipe then
      expect anything
      let c ← r.command
      return c :: (← readStages r fuel)
    pushBack
    return []

/-- Read a pipeline. -/
def readPipeline (r : Readers) : ReadM Command := do
  let negated := (← readToken r) = .not
  if negated then expect { keywords := true, aliases := true } else pushBack
  let first ← r.command
  let c ← (do
    match ← readStages r ((← remaining) + 2) with
    | [] => return first
    | rest => return .pipeline (first :: rest) false)
  return if negated then .negated c else c

/-- Read pipelines joined by conditions, after the first. -/
def readJoined (r : Readers) : Nat → Command → ReadM Command
  | 0, c => return c
  | fuel + 1, c => do
    match ← readToken r with
    | .both =>
      expect anything
      readJoined r fuel (.both c (← readPipeline r))
    | .either =>
      expect anything
      readJoined r fuel (.either c (← readPipeline r))
    | _ =>
      pushBack
      return c

/-- A command that nobody waits for. -/
def Command.inBackground : Command → Command
  | .pipeline commands _ => .pipeline commands true
  | .redirected line body redirections => .background line body redirections
  | c => .background 0 c []

/-- How a list of commands ends. -/
inductive ListKind where
  /-- With its line. -/
  | line
  /-- Before a token that cannot go on with it. The list is not empty unless that is allowed. -/
  | inner (mayBeEmpty : Bool)
deriving DecidableEq

/-- Read a list of commands after some that were read. -/
def readListFrom (r : Readers) (kind : ListKind) : Nat → Option Command → ReadM (Option Command)
  | 0, c? => return c?
  | fuel + 1, c? => do
    expect { newlines := kind ≠ .line, keywords := true, aliases := true }
    match ← readToken r with
    | .newline =>
      readDocuments r
      return c?
    | .finish =>
      readDocuments r
      pushBack
      let _ ← noteToken .finish
      return c?
    | t =>
      pushBack
      let mayEnd := match kind with
        | .line => false
        | .inner mayBeEmpty => mayBeEmpty || c?.isSome
      if mayEnd && t.endsList then return c?
      let next ← readJoined r ((← remaining) + 2) (← readPipeline r)
      let t ← readToken r
      let next := if t = .background then next.inBackground else next
      let c := match c? with
        | none => next
        | some c => .sequence c next
      match t with
      | .finish =>
        readDocuments r
        pushBack
        let _ ← noteToken .finish
        return some c
      | .newline =>
        pushBack
        readListFrom r kind fuel (some c)
      | .background | .semicolon => readListFrom r kind fuel (some c)
      | _ =>
        if kind = .line then refuseToken
        pushBack
        return some c

/-- Read a list of commands. -/
def readList (r : Readers) (kind : ListKind) : ReadM (Option Command) := do
  readListFrom r kind ((← remaining) + 2) none

/-- The readers for commands inside commands, nested so deep at most. -/
def readers : Nat → Readers
  | 0 => ⟨fun _ => refuse "Nested too deeply", refuse "Nested too deeply"⟩
  | depth + 1 =>
    ⟨fun mayBeEmpty => fun s => readList (readers depth) (.inner mayBeEmpty) s,
      fun s => readCommand (readers depth) s⟩

/-! ## Scripts -/

/-- What was read of a script. -/
inductive Line where
  /-- A command, perhaps none, and whether the script ends after it. -/
  | command (c : Option Command) (isLast : Bool)
  | finished
  | wrong (e : SyntaxError)

/-- How deep commands may stand inside commands. -/
def maxNesting : Nat := 2000

/-- Read a line of a script with all that belongs to it. -/
def nextLine (s : Reading) : Line × Reading :=
  let start := { s with
    pushedBack := false, expecting := {}, announced := [], metEnd := false, leaving := [] }
  match (readList (readers maxNesting) .line).run start with
  | (.error e, s) => (.wrong e, s)
  | (.ok none, s) =>
    if s.pushedBack && s.last = .finish then (.finished, s) else (.command none false, s)
  | (.ok (some c), s) => (.command (some c) (s.pushedBack && s.last = .finish), s)

/-- A text that is read with the substitutions of a document. -/
def readPrompt (text : String) (aliases : List (String × String)) : Option Word :=
  let start : Reading := { layers := [⟨text.toList, none, false⟩], aliases }
  let scan : Scan := { level := { rules := .doubleQuoted, quoted := true }, ending := .input }
  let r := readers maxNesting
  let act : ReadM Word := do
    let (w, _, _) ← readText r.newCommand (r.list true) scan (← nextJoined)
    return w
  match act.run start with
  | (.ok w, _) => some w
  | (.error _, _) => none

end SessionHandoff.Shell
