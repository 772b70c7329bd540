import SessionHandoff.Shell.Source

/-!
# Reading words

A word is read character by character under rules that change at every quote and brace. The rules in
force form a stack of levels: a substitution in braces or a sum may open a level of its own, with
its own quotes. What is read is first a list of marks, among them the starts and ends of
substitutions, and then put together to a word.

The texts of documents are read by the same rules.
-/

set_option autoImplicit false

namespace SessionHandoff.Shell

/-- The rules by which characters are read. -/
inductive Rules where
  | plain | doubleQuoted | singleQuoted | sum
deriving DecidableEq, Repr, Inhabited

/-- What a character means under some rules. -/
inductive Meaning where
  | ordinary
  /-- A character that has a meaning when the word is expanded. -/
  | pattern
  | newline | backslash | singleQuote | doubleQuote | closingQuote | backquote | dollar
  | closingBrace | openingParenthesis | closingParenthesis
  /-- A character that ends a word. -/
  | delimiter
  | finish
deriving DecidableEq, Repr

/-- The characters that have a meaning when a word is expanded. -/
def patternChars : List Char := ['!', '*', '?', '[', '=', '~', ':', '/', '-', ']']

/-- The meaning of a character. -/
def Rules.meaning (r : Rules) : Option Char → Meaning
  | none => .finish
  | some c =>
    if c = '\n' then .newline
    else
      match r with
      | .plain =>
        if c = '\\' then .backslash
        else if c = '\'' then .singleQuote
        else if c = '"' then .doubleQuote
        else if c = '`' then .backquote
        else if c = '$' then .dollar
        else if c = '}' then .closingBrace
        else if ['<', '>', '(', ')', ';', '&', '|', ' ', '\t'].contains c then .delimiter
        else .ordinary
      | .doubleQuoted =>
        if c = '\\' then .backslash
        else if c = '"' then .closingQuote
        else if c = '`' then .backquote
        else if c = '$' then .dollar
        else if c = '}' then .closingBrace
        else if patternChars.contains c then .pattern
        else .ordinary
      | .singleQuoted =>
        if c = '\'' then .closingQuote
        else if c = '\\' || patternChars.contains c then .pattern
        else .ordinary
      | .sum =>
        if c = '\\' then .backslash
        else if c = '`' then .backquote
        else if c = '$' then .dollar
        else if c = '}' then .closingBrace
        else if c = '(' then .openingParenthesis
        else if c = ')' then .closingParenthesis
        else .ordinary

/-- A level of rules. -/
structure Level where
  rules : Rules := .plain
  /-- Whether a quote is open inside the braces of this level. -/
  innerQuoted : Bool := false
  /-- Whether a substitution opened this level. -/
  opened : Bool := false
  quoted : Bool := false
  /-- The open braces, and those that were opened between quotes. -/
  braces : Nat := 0
  quotedBraces : Nat := 0
  parentheses : Nat := 0
deriving Repr, Inhabited

/-- A mark of a word that is being read. -/
inductive Mark where
  | part (p : Part)
  | opening (name : String) (operation : Operation) (orEmpty : Bool)
  | closing
  | openingSum
  | closingSum
deriving Inhabited

/-- How the text that is read ends: where a word ends, where the input ends, or before a line that
consists of a mark. -/
inductive Ending where
  | word
  | input
  | mark (text : List Char) (stripsTabs : Bool)
deriving DecidableEq, Repr, Inhabited

/-- A word that is being read. -/
structure Scan where
  level : Level := {}
  /-- The levels around. -/
  outer : List Level := []
  /-- The marks so far, the latest first. -/
  marks : List Mark := []
  quoted : Bool := false
  ending : Ending := .word
deriving Inhabited

namespace Scan

/-- One more mark. -/
def push (s : Scan) (m : Mark) : Scan :=
  { s with marks := m :: s.marks }

/-- One more character. -/
def char (s : Scan) (c : Char) : Scan :=
  s.push (.part (.char c))

/-- One more character that keeps no meaning. -/
def escaped (s : Scan) (c : Char) : Scan :=
  s.push (.part (.escaped c))

/-- The start or end of a quotation, which leaves a mark in words alone. -/
def quoteMark (s : Scan) : Scan :=
  if s.ending = .word then s.push (.part .quoteMark) else s

/-- The start or end of a double quotation. -/
def doubleQuoteMark (s : Scan) : Scan :=
  { s with level := { s.level with
    innerQuoted := if s.level.braces = 0 then s.level.innerQuoted else !s.level.innerQuoted } }
    |>.quoteMark

/-- A level of other rules. -/
def enter (s : Scan) (level : Level) : Scan :=
  { s with level, outer := s.level :: s.outer }

/-- Back to the level around. -/
def leave (s : Scan) : Scan :=
  match s.outer with
  | [] => s
  | l :: outer => { s with level := l, outer }

/-- The start of a substitution with a word, which is read under the given rules. -/
def openBrace (s : Scan) (name : String) (operation : Operation) (orEmpty : Bool) (rules : Rules) :
    Scan :=
  let rules := if rules = .sum then .doubleQuoted else rules
  let s := s.push (.opening name operation orEmpty)
  let s :=
    if rules ≠ s.level.rules || s.level.innerQuoted then
      s.enter { rules, opened := true, quoted := rules ≠ .plain }
    else s
  { s with level := { s.level with
    braces := s.level.braces + 1
    quotedBraces := if s.level.quoted then s.level.quotedBraces + 1 else s.level.quotedBraces } }

/-- A closing brace. -/
def closeBrace (s : Scan) : Scan :=
  if !s.level.innerQuoted && 0 < s.level.braces then
    let level := { s.level with braces := s.level.braces - 1 }
    let s :=
      if level.braces = 0 && level.opened then { s with level }.leave
      else { s with level := { level with quotedBraces := level.quotedBraces - 1 } }
    s.push .closing
  else s.char '}'

/-- A closing quote. -/
def closeQuote (s : Scan) (c : Char) : Scan :=
  if s.ending ≠ .word && s.level.braces = 0 then s.char c
  else
    let level :=
      if s.level.quotedBraces = 0 then { s.level with rules := .plain, quoted := false }
      else s.level
    let s := { s with level, quoted := true }
    if c = '"' then s.doubleQuoteMark else s.quoteMark

end Scan

/-- Put marks together to parts, up to a closing mark; with so many marks at most. -/
def assemble : Nat → List Mark → List Part × List Mark
  | 0, rest => ([], rest)
  | _ + 1, [] => ([], [])
  | n + 1, m :: rest =>
    let around (p : List Part → Part) : List Part × List Mark :=
      let inner := assemble n rest
      let after := assemble n inner.2
      (p inner.1 :: after.1, after.2)
    match m with
    | .part p =>
      let after := assemble n rest
      (p :: after.1, after.2)
    | .opening name operation orEmpty => around (.parameter name operation orEmpty)
    | .openingSum => around .sum
    | .closing | .closingSum => ([], rest)

/-! ## Substitutions -/

/-- Read characters while they may stand in a name. -/
def readWhile (p : Char → Bool) : Nat → Option Char → ReadM (List Char × Option Char)
  | 0, c? => return ([], c?)
  | fuel + 1, c? =>
    match c? with
    | some c => do
      if p c then
        let (rest, after) ← readWhile p fuel (← nextJoined)
        return (c :: rest, after)
      else return ([], c?)
    | none => return ([], none)

/-- The name of a parameter in braces. -/
inductive BraceName where
  /-- A name, whether its length is asked for, and the character that follows. -/
  | name (text : List Char) (length : Bool) (next : Option Char)
  /-- No name; the character has been read. -/
  | none (next : Option Char)

/-- Read the name of a parameter after an opening brace, from its first character on. -/
def readBraceName (fuel : Nat) (c? : Option Char) : ReadM BraceName := do
  let named (length : Bool) (c? : Option Char) : ReadM (Option BraceName) := do
    match c? with
    | some c =>
      if isNameStart c then
        let (text, next) ← readWhile isNameRest fuel c?
        return some (.name text length next)
      else if c.isDigit then
        let (text, next) ← readWhile Char.isDigit fuel c?
        return some (.name text length next)
      else return none
    | none => return none
  if let some r ← named false c? then return r
  match c? with
  | some '}' => return .none c?
  | none => return .none (← nextJoined)
  | some '#' =>
    let second ← nextJoined
    if let some r ← named true second then return r
    let third ← nextJoined
    if second = some '}' || third ≠ some '}' then
      unread third
      return .name ['#'] false second
    match second with
    | some c => if isSpecialParameter c then return .name [c] true third else return .none third
    | none => return .none third
  | some c =>
    let next ← nextJoined
    if isSpecialParameter c then return .name [c] false next else return .none next

/-- The operation that a character after a name stands for, if it is one without a pattern. -/
def plainOperation? : Option Char → Option Operation
  | some '}' => some .value
  | some '-' => some .otherwise
  | some '+' => some .instead
  | some '?' => some .required
  | some '=' => some .assigned
  | _ => none

/-- Read a substitution in braces after the opening brace. -/
def readBraces (fuel : Nat) (s : Scan) : ReadM Scan := do
  match ← readBraceName fuel (← nextJoined) with
  | .none next =>
    unread next
    return s.openBrace "" .malformed false s.level.rules
  | .name text true next =>
    unread next
    let operation := if next = some '}' then Operation.length else .malformed
    return s.openBrace (String.ofList text) operation false s.level.rules
  | .name text false next =>
    let name := String.ofList text
    match next with
    | some ':' =>
      let operation := (plainOperation? (← nextJoined)).getD .malformed
      return s.openBrace name operation true s.level.rules
    | some '}' => return s.push (.part (.parameter name .value false []))
    | some '%' | some '#' =>
      let again ← nextJoined
      let longest := again = next
      if !longest then unread again
      let operation :=
        if next = some '#' then Operation.withoutStart longest else .withoutEnd longest
      return s.openBrace name operation false .plain
    | _ =>
      return s.openBrace name ((plainOperation? next).getD .malformed) false s.level.rules

/-- Read a substitution after the dollar sign. -/
def readDollar (readCommand : ReadM (Option Command)) (fuel : Nat) (s : Scan) : ReadM Scan := do
  let c? ← nextJoined
  if (← get).expecting.endMark then
    unread c?
    return s.char '$'
  match c? with
  | some '(' =>
    let second ← nextJoined
    if second = some '(' then
      return (s.push .openingSum).enter { rules := .sum, quoted := true }
    unread second
    return s.push (.part (.command (← readCommand)))
  | some '{' => readBraces fuel s
  | some c =>
    if isNameStart c then
      let (text, next) ← readWhile isNameRest fuel c?
      unread next
      return s.push (.part (.parameter (String.ofList text) .value false []))
    else if isSpecialParameter c then
      return s.push (.part (.parameter (String.singleton c) .value false []))
    else
      unread c?
      return s.char '$'
  | none => return s.char '$'

/-- Read a text between backquotes. -/
def readBackquoted (quoted : Bool) : Nat → ReadM (List Char)
  | 0 => refuse "EOF in backquote substitution"
  | fuel + 1 => do
    match ← nextJoined with
    | none => refuse "EOF in backquote substitution"
    | some '`' => return []
    | some '\\' =>
      match ← nextChar with
      | none => refuse "EOF in backquote substitution"
      | some c =>
        let rest ← readBackquoted quoted fuel
        if c = '\\' || c = '`' || c = '$' || (quoted && c = '"') then return c :: rest
        else return '\\' :: c :: rest
    | some c =>
      if c = '\n' then countLine
      return c :: (← readBackquoted quoted fuel)

/-- Read a command between backquotes, whose text is a script of its own. -/
def readOldCommand (readList : ReadM (Option Command)) (fuel : Nat) (s : Scan) : ReadM Scan := do
  let text ← readBackquoted s.level.quoted fuel
  let around ← get
  set { around with layers := [⟨text, none, false⟩], line := 1, announced := [], leaving := [] }
  let body ← readList
  modify fun inner => { inner with
    layers := around.layers
    line := around.line
    announced := around.announced
    leaving := around.leaving
    metEnd := around.metEnd
    pushedBack := false }
  return s.push (.part (.command body))

/-! ## Words -/

/-- Pass over the line that ends a document, if it is next. Returns the first character of the text
otherwise. -/
def readMarkLine (ending : Ending) (c? : Option Char) : ReadM (Option Char) := do
  match ending with
  | .mark mark stripsTabs =>
    let tabs (c? : Option Char) : ReadM (Option Char) := do
      if stripsTabs && c? = some '\t' then
        modify fun s =>
          match s.layers with
          | l :: below =>
            { s with layers := { l with text := l.text.dropWhile (· == '\t') } :: below }
          | [] => s
        nextChar
      else return c?
    let c? ← tabs c?
    let s ← get
    let text := c?.toList ++ (s.layers.head?.map Layer.text).getD []
    let after := text.drop mark.length
    if mark.isPrefixOf text && (after.isEmpty || after.head? = some '\n') then
      modify fun s =>
        match s.layers with
        | l :: below => { s with layers := { l with text := after.drop 1 } :: below }
        | [] => s
      if after.isEmpty then modify fun s => { s with metEnd := true }
      countLine
      return none
    else return c?
  | _ => return c?

/-- What became of a word after one more character. -/
inductive Reached where
  /-- The word goes on; the flag tells that a line starts. -/
  | more (s : Scan) (lineStart : Bool)
  /-- The word ended before the character. -/
  | finished (s : Scan)

/-- Read a backslash. -/
def readEscape (s : Scan) : ReadM Scan := do
  match ← nextChar with
  | none => return s.escaped '\\'
  | some c =>
    let l := s.level
    let kept := l.quoted && c ≠ '\\' && c ≠ '`' && c ≠ '$' &&
      (c ≠ '"' || (s.ending ≠ .word && l.braces = 0)) && (c ≠ '}' || l.braces = 0)
    let s := if kept then s.escaped '\\' else s
    return { s.escaped c with quoted := true }

/-- Read one character of a word. -/
def readOne (readNew readOld : ReadM (Option Command)) (fuel : Nat) (s : Scan) (c? : Option Char) :
    ReadM Reached := do
  let more (s : Scan) : ReadM Reached := return .more s false
  let c := c?.getD ' '
  let l := s.level
  match l.rules.meaning c? with
  | .newline =>
    if l.rules = .plain && l.braces = 0 then return .finished s
    countLine
    return .more (s.char c) true
  | .ordinary => more (s.char c)
  | .pattern =>
    more (if s.ending = .word || l.quoted || 0 < l.braces then s.escaped c else s.char c)
  | .backslash => more (← readEscape s)
  | .singleQuote => more { s with level := { l with rules := .singleQuoted } }.quoteMark
  | .doubleQuote =>
    more { s with level := { l with rules := .doubleQuoted, quoted := true } }.doubleQuoteMark
  | .closingQuote => more (s.closeQuote c)
  | .dollar => more (← readDollar readNew fuel s)
  | .closingBrace => more s.closeBrace
  | .openingParenthesis =>
    more { s.char c with level := { l with parentheses := l.parentheses + 1 } }
  | .closingParenthesis =>
    if 0 < l.parentheses then
      more { s.char c with level := { l with parentheses := l.parentheses - 1 } }
    else
      let next ← nextJoined
      if next = some ')' then more (s.push .closingSum).leave
      else
        unread next
        more (s.char c)
  | .backquote =>
    if (← get).expecting.endMark then more { s.char c with quoted := true }
    else more (← readOldCommand readOld fuel s)
  | .finish => return .finished s
  | .delimiter => if l.braces = 0 then return .finished s else more (s.char c)

/-- Read characters to the end of a word. Returns the word and the character that ended it. -/
def readChars (readNew readOld : ReadM (Option Command)) : Nat → Scan → Bool → Option Char →
    ReadM (Scan × Option Char)
  | 0, s, _, c? => return (s, c?)
  | fuel + 1, s, lineStart, c? => do
    let c? ← if lineStart then readMarkLine s.ending c? else pure c?
    match ← readOne readNew readOld fuel s c? with
    | .finished s => return (s, c?)
    | .more s lineStart =>
      let next ← if s.level.rules = .singleQuoted then nextChar else nextJoined
      readChars readNew readOld fuel s lineStart next

/-- Refuse a word that ended too early. -/
def checkFinished (s : Scan) : ReadM Unit := do
  if s.level.rules = .sum then refuse "Missing '))'"
  if s.level.rules ≠ .plain && s.ending = .word then refuse "Unterminated quoted string"
  if s.level.braces ≠ 0 then refuse "Missing '\x7d'"

/-- Read a text from its first character on. Returns the text, whether something in it was quoted,
and the character that ended it. -/
def readText (readNew readOld : ReadM (Option Command)) (start : Scan) (first : Option Char) :
    ReadM (Word × Bool × Option Char) := do
  let fuel := (← remaining) + 2
  let (s, last) ← readChars readNew readOld fuel start true first
  checkFinished s
  let marks := s.marks.reverse
  return ((assemble (marks.length + 1) marks).1, s.quoted, last)

end SessionHandoff.Shell
