import SessionHandoff.Tools.Searching.Perl.Fault
import SessionHandoff.Tools.Searching.Perl.Node

/-!
# Reading expressions in the manner of Perl

The text of an expression is read from left to right. Groups are numbered where they open; options
hold up to the end of the group in which they are set. References to groups and looks behind are
checked when everything is read, as a group may be referred to before it opens.
-/

set_option autoImplicit false

namespace SessionHandoff.Tools.Searching.Perl

open Characters (Charset Kind)

/-- The options that hold. -/
structure Flags where
  folds : Bool := false
  /-- Whether lines start and stop inside the text. -/
  lines : Bool := false
  /-- Whether a dot stands for line ends, too. -/
  dotAll : Bool := false
  /-- Whether blanks and comments mean nothing, and blanks in sets either. -/
  spaced : Bool := false
  spacedSets : Bool := false
  /-- Whether repetitions are lazy unless they are marked. -/
  lazy : Bool := false
  /-- Whether groups may have the same name. -/
  sameNames : Bool := false
  /-- Whether groups without a name have no number. -/
  unnumbered : Bool := false

/-- A reader of expressions. -/
structure Reader where
  rest : List Char
  charset : Charset := .octets
  flags : Flags := {}
  /-- Whether classes are meant for all characters. -/
  wide : Bool := false
  /-- How many groups were opened. -/
  groups : Nat := 0
  names : List (String × Nat) := []
  /-- Whether all that follows stands for itself. -/
  literal : Bool := false
  /-- How many looks around something are open. -/
  around : Nat := 0
  /-- The first fault that counts only if there is no other one. -/
  late? : Option Fault := none

/-- Reading an expression. -/
abbrev ReadM := StateT Reader (Except Fault)

/-- Go on with a text. -/
def goTo (rest : List Char) : ReadM Unit :=
  modify fun r => { r with rest }

/-- Whether a text starts with another; if so, it is passed. -/
def pass (start : String) : ReadM Bool := do
  let r ← get
  if start.toList.isPrefixOf r.rest then
    goTo (r.rest.drop start.length)
    return true
  return false

/-- Pass a text that has to come. -/
def expect (start : String) (fault : Fault) : ReadM Unit := do
  unless ← pass start do throw fault

/-- Read digits as a number. -/
def readNumber? : ReadM (Option Nat) := do
  let r ← get
  let digits := r.rest.takeWhile Char.isDigit
  goTo (r.rest.drop digits.length)
  return Text.natural? digits

/-- The greatest number of a group. -/
def maxGroup : Nat := 65535

/-- Whether a character belongs to names. -/
def isNameChar (c : Char) : Bool :=
  c.isAlphanum || c = '_'

/-- Read a name with a text after it. -/
def readName (stop : String) : ReadM String := do
  let r ← get
  let name := r.rest.takeWhile isNameChar
  match r.rest with
  | [] => throw .noName
  | c :: _ => if c.isDigit then throw .nameDigit
  if name.isEmpty then throw .noName
  if 32 < name.length then throw .nameLength
  goTo (r.rest.drop name.length)
  expect stop .openName
  return String.ofList name

/-- The group that a relative number means. -/
def relative (forward : Bool) (n : Nat) : ReadM Nat := do
  let groups := (← get).groups
  if n = 0 then throw .relativeZero
  if forward then return groups + n
  if groups < n then throw .reference
  return groups + 1 - n

/-! ## Escapes -/

/-- What a backslash and what follows it stand for. -/
inductive Escape where
  | char (n : Nat)
  | set (negated : Bool) (c : Class)
  | edge (e : Edge)
  | node (e : Node)
  /-- It ends a literal text that was never begun. -/
  | nothing
  | quote
  /-- It means something only outside of sets. -/
  | line | lineEnd | cluster | single | keep

/-- The number that digits say. -/
def numberOf (base : Nat) (digits : List Char) : Nat :=
  digits.foldl (fun n c => n * base + (Text.hexDigit? c).getD 0) 0

/-- Whether a character is an octal digit. -/
def isOctal (c : Char) : Bool :=
  '0' ≤ c && c ≤ '7'

/-- Whether a character is a digit of hexadecimal numbers. -/
def isHex (c : Char) : Bool :=
  (Text.hexDigit? c).isSome

/-- A code that was given by its number. -/
def codeOf (n : Nat) : ReadM Escape := do
  let limit := match (← get).charset with
    | .octets => 0xFF
    | .utf8 => 0x10FFFF
  if limit < n then throw .codeSize
  if (← get).charset = .utf8 && 0xD800 ≤ n && n < 0xE000 then throw .surrogate
  return .char n

/-- Read digits in braces, of which the opening one is passed. -/
def readBraced (base : Nat) (isDigit : Char → Bool) (fault : Fault) : ReadM Escape := do
  let r ← get
  if r.rest.isEmpty || r.rest.head? = some '}' then throw .noDigits
  let digits := r.rest.takeWhile isDigit
  goTo (r.rest.drop digits.length)
  let e ← codeOf (numberOf base digits)
  expect "\x7d" fault
  return e

/-- The name of a property without what makes no difference in it. -/
def plainName (name : List Char) : String :=
  String.ofList ((name.filter fun c => !(c = ' ' || c = '-' || c = '_')).map Char.toLower)

/-- The general categories, by their names in small letters. -/
def categoryNames : List (String × String) :=
  ((Characters.categoryLetters.map (·.2)) ++ ["L", "M", "N", "P", "S", "Z", "C"]).map fun name =>
    (name.map Char.toLower, name)

/-- The properties that are no categories and no scripts. -/
def otherProperties : List (String × Property) :=
  [("any", .any), ("l&", .cased), ("lc", .cased), ("xan", .alnum), ("xps", .space),
    ("xsp", .space), ("xwd", .word)]

/-- The short names of scripts. -/
def scriptNames : List (String × String) :=
  [("latn", "latin"), ("grek", "greek"), ("cyrl", "cyrillic"), ("armn", "armenian"),
    ("hebr", "hebrew"), ("arab", "arabic"), ("deva", "devanagari"), ("geor", "georgian"),
    ("hang", "hangul"), ("hira", "hiragana"), ("kana", "katakana"), ("hani", "han")]

/-- The property with a name. -/
def property? (name : String) : Option Property :=
  let script := (scriptNames.lookup name).getD name
  (otherProperties.lookup name).orElse fun _ =>
    ((categoryNames.lookup name).map Property.category).orElse fun _ =>
      if (Characters.scripts.lookup script).isSome then some (.script script) else none

/-- Read a property. -/
def readProperty (negated : Bool) : ReadM Escape := do
  let r ← get
  match r.rest with
  | [] => throw .property
  | '{' :: rest =>
    let (inverted, rest) : Bool × List Char := match rest with
      | '^' :: rest => (true, rest)
      | _ => (false, rest)
    let name := rest.takeWhile fun c => isNameChar c || " -&".toList.contains c
    match rest.drop name.length with
    | '}' :: after =>
      goTo after
      match property? (plainName name) with
      | some p => return .set (negated != inverted) (.property p)
      | none => throw .unknownProperty
    | _ => throw .property
  | c :: rest =>
    goTo rest
    match property? (plainName [c]) with
    | some p => return .set negated (.property p)
    | none => throw .unknownProperty

/-- Read a reference to a group or a call of one. -/
def readGroupEscape : ReadM Escape := do
  let folds := (← get).flags.folds
  let numbered (isCall : Bool) (stop : String) : ReadM (Option Node) := do
    let r ← get
    let (sign, body) : Option Bool × List Char := match r.rest with
      | '+' :: rest => (some true, rest)
      | '-' :: rest => (some false, rest)
      | rest => (none, rest)
    if !(body.head?.any Char.isDigit) then return none
    goTo body
    let n := (← readNumber?).getD 0
    if maxGroup < n then throw .groupSize
    expect stop .groupEscape
    let n ← match sign with
      | some forward => relative forward n
      | none => pure n
    return some (if isCall then .call (.number n) else .again (.number n) folds)
  if ← pass "<" then
    match ← numbered true ">" with
    | some e => return .node e
    | none => return .node (.call (.name (← readName ">")))
  else if ← pass "'" then
    match ← numbered true "'" with
    | some e => return .node e
    | none => return .node (.call (.name (← readName "'")))
  else if ← pass "\x7b" then
    match ← numbered false "\x7d" with
    | some e => return .node e
    | none => return .node (.again (.name (← readName "\x7d")) folds)
  else
    match ← numbered false "" with
    | some e => return .node e
    | none => throw .groupEscape

/-- Read a reference by name. -/
def readNameEscape : ReadM Escape := do
  let folds := (← get).flags.folds
  if ← pass "\x7b" then return .node (.again (.name (← readName "\x7d")) folds)
  if ← pass "<" then return .node (.again (.name (← readName ">")) folds)
  if ← pass "'" then return .node (.again (.name (← readName "'")) folds)
  throw .nameEscape

/-- Read what digits stand for: a group or, if there are not so many of them, a code. -/
def readDigits (c : Char) (inSet : Bool) : ReadM Escape := do
  let r ← get
  let rest := r.rest
  let digits := c :: rest.takeWhile Char.isDigit
  let n := numberOf 10 digits
  if c ≠ '0' && !inSet && (n < 10 || '8' ≤ c || n ≤ r.groups) then
    if maxGroup < n then throw .groupSize
    goTo (rest.drop (digits.length - 1))
    return .node (.again (.number n) r.flags.folds)
  if '8' ≤ c then return .char c.toNat
  let more := (rest.take 2).takeWhile isOctal
  let n := numberOf 8 (c :: more)
  goTo (rest.drop more.length)
  if r.charset = .octets && 0xFF < n then throw .octalSize
  return .char n

/-- The escapes that stand for one character. -/
def charEscapes : List (Char × Nat) :=
  [('a', 7), ('e', 27), ('f', 12), ('n', 10), ('r', 13), ('t', 9)]

/-- The escapes that stand for a class of characters, and for what is not in it. -/
def classEscapes : List (Char × Class) :=
  [('d', .digit), ('w', .word), ('s', .blank), ('h', .across), ('v', .down)]

/-- The escapes that stand for conditions. -/
def edgeEscapes (wide : Bool) : List (Char × Edge) :=
  [('A', .start), ('Z', .nearStop), ('z', .stop), ('G', .begin), ('b', .wordEdge wide),
    ('B', .noWordEdge wide)]

/-- Read what follows a backslash. -/
def readEscape (inSet : Bool) : ReadM Escape := do
  let r ← get
  match r.rest with
  | [] => throw .endsInBackslash
  | c :: rest =>
    goTo rest
    if !c.isAlphanum then return .char c.toNat
    if c.isDigit then return ← readDigits c inSet
    if let some n := charEscapes.lookup c then return .char n
    if let some k := classEscapes.lookup c then return .set false k
    if let some k := classEscapes.lookup c.toLower then return .set true k
    if let some e := (edgeEscapes r.wide).lookup c then return .edge e
    match c with
    | 'c' =>
      match rest with
      | [] => throw .endsInControl
      | d :: rest =>
        if d.toNat < 32 || 126 < d.toNat then throw .control
        goTo rest
        return .char (d.toUpper.toNat ^^^ 64)
    | 'o' =>
      expect "\x7b" .octalBrace
      readBraced 8 isOctal .octalDigit
    | 'x' =>
      if ← pass "\x7b" then readBraced 16 isHex .hexDigit
      else
        let digits := (rest.take 2).takeWhile isHex
        goTo (rest.drop digits.length)
        return .char (numberOf 16 digits)
    | 'N' =>
      if rest.head? = some '{' && !inSet then
        if ← pass "\x7bU+" then
          if r.charset = .octets then throw .codeName
          return ← readBraced 16 isHex .hexDigit
        let digits := (rest.drop 1).takeWhile fun c => c.isDigit || c = ','
        if digits.isEmpty || (rest.drop (digits.length + 1)).head? ≠ some '}' then
          throw .caseEscape
      return .line
    | 'p' => readProperty false
    | 'P' => readProperty true
    | 'g' => if inSet then return .char c.toNat else readGroupEscape
    | 'k' => if inSet then throw .setEscape else readNameEscape
    | 'R' => return .lineEnd
    | 'X' => return .cluster
    | 'C' => return .single
    | 'K' => return .keep
    | 'Q' => return .quote
    | 'E' => return .nothing
    | _ => if "FLlUu".toList.contains c then throw .caseEscape else throw .escape

/-! ## Sets -/

/-- The classes that have a name between colons. -/
def namedClass? (folds : Bool) (name : String) : Option Class :=
  match name with
  | "word" => some .word
  | "ascii" => some .ascii
  | _ => (Characters.kinds.lookup name).map fun k =>
    .kind (if folds && (k = .lower || k = .upper) then .alpha else k)

/-- The text before a mark and a closing bracket, and what follows them, if nothing in between ends
it before. -/
def marked? (mark : Char) : List Char → Option (List Char × List Char)
  | '\\' :: d :: rest =>
    if d = ']' || d = '\\' then (marked? mark rest).map fun r => ('\\' :: d :: r.1, r.2)
    else (marked? mark (d :: rest)).map fun r => ('\\' :: r.1, r.2)
  | c :: d :: rest =>
    if c = '[' && d = mark || c = ']' then none
    else if c = mark && d = ']' then some ([], rest)
    else (marked? mark (d :: rest)).map fun r => (c :: r.1, r.2)
  | _ => none

/-- How a hyphen would be understood in a set. -/
inductive RangeState where
  /-- It stands for itself. -/
  | no
  /-- It stands between two codes, of which this is the first. -/
  | after (n : Nat)
  /-- It was read behind this code. -/
  | started (n : Nat)

/-- A set that is being read. -/
structure SetReader where
  members : List Member := []
  range : RangeState := .no

/-- Put a code into a set. -/
def SetReader.addCode (s : SetReader) (n : Nat) : Except Fault SetReader :=
  match s.range with
  | .started first =>
    if n < first then .error .rangeOrder
    else .ok { members := .range first n :: s.members, range := .no }
  | _ => .ok { members := .range n n :: s.members, range := .after n }

/-- Put a class into a set. What follows the class is given. -/
def SetReader.addClass (s : SetReader) (m : Member) (rest : List Char) : Except Fault SetReader :=
  match s.range, rest with
  | .started _, _ => .error .setRange
  | _, '-' :: c :: _ =>
    if c ≠ ']' then .error .setRange else .ok { members := m :: s.members, range := .no }
  | _, _ => .ok { members := m :: s.members, range := .no }

/-- Read the members of a set up to the closing bracket, which does not count where it comes
first. -/
def readMembers : Nat → Bool → SetReader → ReadM (List Member)
  | 0, _, _ => throw .openSet
  | fuel + 1, isFirst, s => do
    let r ← get
    match r.rest with
    | [] => throw .openSet
    | c :: rest =>
      if r.literal then
        if ← pass "\\E" then
          modify fun r => { r with literal := false }
          readMembers fuel false s
        else
          goTo rest
          readMembers fuel false (← s.addCode c.toNat)
      else if c = ']' && !isFirst then
        goTo rest
        match s.range with
        | .started _ => return .range 45 45 :: s.members
        | _ => return s.members
      else if r.flags.spacedSets && (c = ' ' || c = '\t') then
        goTo rest
        readMembers fuel isFirst s
      else
        let mark := rest.headD ' '
        let inner? := if c = '[' && (mark = ':' || mark = '.' || mark = '=') then
            (marked? mark (rest.drop 1)).map fun m => (m.1, m.2)
          else none
        match inner? with
        | some (name, after) =>
          if mark ≠ ':' then throw .collation
          if let .started _ := s.range then throw .setRange
          let (negated, name) : Bool × List Char := match name with
            | '^' :: name => (true, name)
            | _ => (false, name)
          match namedClass? r.flags.folds (String.ofList name) with
          | none => throw .className
          | some k =>
            goTo after
            readMembers fuel false (← s.addClass (.class_ negated r.wide k) after)
        | none =>
          goTo rest
          if c = '-' then
            match s.range with
            | .after n => readMembers fuel false { s with range := .started n }
            | _ => readMembers fuel false (← s.addCode c.toNat)
          else if c ≠ '\\' then readMembers fuel false (← s.addCode c.toNat)
          else
            match ← readEscape true with
            | .char n => readMembers fuel false (← s.addCode n)
            | .set negated k =>
              readMembers fuel false (← s.addClass (.class_ negated r.wide k) (← get).rest)
            | .edge (.wordEdge _) => readMembers fuel false (← s.addCode 8)
            | .nothing => readMembers fuel isFirst s
            | .quote =>
              modify fun r => { r with literal := true }
              readMembers fuel isFirst s
            | .line => throw .lineInSet
            | _ => throw .setEscape

/-- Read what follows an opening bracket. -/
def readSet : ReadM Node := do
  let r ← get
  let wordCode : Node := .one false false [.class_ false r.wide .word]
  if ← pass "[:<:]]" then return .seq (.edge (.wordEdge r.wide)) (.ahead true wordCode)
  if ← pass "[:>:]]" then return .seq (.edge (.wordEdge r.wide)) (.behind true wordCode)
  let mark := r.rest.headD ' '
  if (mark = ':' || mark = '.' || mark = '=') && (marked? mark (r.rest.drop 1)).isSome then
    throw (if mark = ':' then .namedClassOutside else .collation)
  let negated ← pass "^"
  let members ← readMembers (2 * r.rest.length + 2) true {}
  return .one negated r.flags.folds members

/-! ## Repetitions -/

/-- The greatest number of repetitions. -/
def maxTimes : Nat := 65535

/-- Read the bounds of a repetition, if there are any. -/
def readBounds? : ReadM (Option (Nat × Option Nat)) := do
  let r ← get
  match r.rest with
  | '*' :: rest =>
    goTo rest
    return some (0, none)
  | '+' :: rest =>
    goTo rest
    return some (1, none)
  | '?' :: rest =>
    goTo rest
    return some (0, some 1)
  | '{' :: rest =>
    let first := rest.takeWhile Char.isDigit
    match Text.natural? first, rest.drop first.length with
    | some n, '}' :: rest =>
      if maxTimes < n then throw .repeatSize
      goTo rest
      return some (n, some n)
    | some n, ',' :: rest =>
      let second := rest.takeWhile Char.isDigit
      match rest.drop second.length with
      | '}' :: after =>
        let most? := Text.natural? second
        if maxTimes < n || most?.any (maxTimes < ·) then throw .repeatSize
        if most?.any (· < n) then throw .repeatOrder
        goTo after
        return some (n, most?)
      | _ => return none
    | _, _ => return none
  | _ => return none

/-- Read how a repetition is tried. -/
def readHurry : ReadM Hurry := do
  let isLazy := (← get).flags.lazy
  if ← pass "+" then return .possessive
  if ← pass "?" then return if isLazy then .greedy else .lazy
  return if isLazy then .lazy else .greedy

/-- Whether a character means nothing where blanks do. -/
def isSpacing (utf : Bool) (c : Char) : Bool :=
  c = ' ' || (9 ≤ c.toNat && c.toNat ≤ 13) ||
    utf && [0x85, 0x200E, 0x200F, 0x2028, 0x2029].contains c.toNat

/-- Pass what begins and ends literal text, and blanks and comments where they mean nothing. -/
def passSpacing : Nat → ReadM Unit
  | 0 => return
  | fuel + 1 => do
    let r ← get
    if r.literal then
      if ← pass "\\E" then
        modify fun r => { r with literal := false }
        passSpacing fuel
    else match r.rest with
    | '\\' :: 'Q' :: rest =>
      set { r with rest, literal := true }
      passSpacing fuel
    | '\\' :: 'E' :: rest =>
      goTo rest
      passSpacing fuel
    | '(' :: '?' :: '#' :: rest =>
      let body := rest.takeWhile (· ≠ ')')
      if body.length = rest.length then throw .openComment
      goTo (rest.drop (body.length + 1))
      passSpacing fuel
    | c :: rest =>
      if !r.flags.spaced then return
      if isSpacing (r.charset = .utf8) c then
        goTo rest
        passSpacing fuel
      else if c = '#' then
        goTo (rest.dropWhile (· ≠ '\n'))
        passSpacing fuel
    | [] => return

/-! ## Groups -/

/-- Read options up to what ends them: whether it is a colon, and the flags. -/
def readFlags : Nat → Bool → Bool → Flags → ReadM (Bool × Flags)
  | 0, _, _, _ => throw .groupSign
  | fuel + 1, sets, canTurn, f => do
    let r ← get
    match r.rest with
    | [] => throw .openGroup
    | c :: rest =>
      goTo rest
      let more (f : Flags) : ReadM (Bool × Flags) := readFlags fuel sets canTurn f
      match c with
      | ')' => return (false, f)
      | ':' => return (true, f)
      | '-' => if canTurn then readFlags fuel false false f else throw .hyphen
      | 'i' => more { f with folds := sets }
      | 'm' => more { f with lines := sets }
      | 's' => more { f with dotAll := sets }
      | 'n' => more { f with unnumbered := sets }
      | 'J' => more { f with sameNames := sets }
      | 'U' => more { f with lazy := sets }
      | 'x' =>
        let twice ← if sets then pass "x" else pure false
        more { f with spaced := sets, spacedSets := twice }
      | _ => throw .groupSign

/-- Open a group with a number. -/
def openGroup (name? : Option String) : ReadM Nat := do
  let r ← get
  let n := r.groups + 1
  match name? with
  | none => set { r with groups := n }
  | some name =>
    let others := r.names.filter fun e => e.2 ≠ n
    if r.names.any fun e => e.2 = n && e.1 ≠ name then throw .otherName
    if others.any (·.1 = name) && !r.flags.sameNames then throw .sameName
    set { r with groups := n, names := r.names ++ [(name, n)] }
  return n

/-- The looks around something, by their names. -/
def lookNames : List (String × Bool × Bool) :=
  [("pla", true, true), ("positive_lookahead", true, true), ("nla", true, false),
    ("negative_lookahead", true, false), ("plb", false, true),
    ("positive_lookbehind", false, true), ("nlb", false, false),
    ("negative_lookbehind", false, false), ("napla", true, true),
    ("non_atomic_positive_lookahead", true, true), ("naplb", false, true),
    ("non_atomic_positive_lookbehind", false, true)]

/-- The verbs. -/
def verbs : List (String × Node) :=
  [("FAIL", .fail), ("F", .fail), ("ACCEPT", .accept), ("COMMIT", .cut .commit),
    ("PRUNE", .cut .prune), ("SKIP", .cut .skip), ("THEN", .cut .branch), ("MARK", .empty),
    ("", .empty)]

/-- Read a verb. -/
def readVerb : ReadM Node := do
  let r ← get
  let name := r.rest.takeWhile Char.isAlpha
  goTo (r.rest.drop name.length)
  let word := String.ofList name
  match verbs.lookup word with
  | none => throw .verb
  | some e =>
    let hasArgument ← pass ":"
    if hasArgument then goTo ((← get).rest.dropWhile (· ≠ ')'))
    if (word = "MARK" || word = "") && !hasArgument then throw .verbArgument
    expect ")" .verb
    return e

/-- Read the test of a choice, if it is no expression. The opening parenthesis is passed. -/
def readTest : ReadM Test := do
  let r ← get
  let numbered (sign : Option Bool) : ReadM Test := do
    match ← readNumber? with
    | none => throw .relativeDigit
    | some n =>
      expect ")" .openCondition
      let n ← match sign with
        | some forward => relative forward n
        | none => pure n
      return .isSet (.number n)
  match r.rest with
  | '+' :: rest =>
    goTo rest
    numbered (some true)
  | '-' :: rest =>
    goTo rest
    numbered (some false)
  | '<' :: rest =>
    goTo rest
    let name ← readName ">"
    expect ")" .openCondition
    return .isSet (.name name)
  | '\'' :: rest =>
    goTo rest
    let name ← readName "'"
    expect ")" .openCondition
    return .isSet (.name name)
  | 'R' :: '&' :: rest =>
    goTo rest
    return .isCalled (some (.name (← readName ")")))
  | c :: rest =>
    if c.isDigit then return ← numbered none
    if ← pass "DEFINE)" then return .never
    if c = 'R' then
      let digits := rest.takeWhile Char.isDigit
      if (rest.drop digits.length).head? = some ')' then
        goTo (rest.drop (digits.length + 1))
        return .isCalled ((Text.natural? digits).map Reference.number)
    if ← pass "VERSION" then
      let _ ← pass ">"
      let _ ← pass "="
      goTo ((← get).rest.dropWhile (· ≠ ')'))
      expect ")" .openCondition
      return .always
    let name ← try readName ")" catch
      | .openName => throw .openCondition
      | .noName | .nameDigit => throw .condition
      | f => throw f
    return .isSet (.name name)
  | [] => throw .openGroup

/-- What an item of a sequence is. -/
inductive Item where
  | node (e : Node) (canRepeat : Bool)
  | nothing
  /-- The sequence ends here. -/
  | stop

/-- Note a fault that counts only if there is no other one. -/
def noteLate (f : Fault) : ReadM Unit :=
  modify fun r => { r with late? := r.late?.orElse fun _ => some f }

/-- Begin to look around something. -/
def enterAround : ReadM Unit :=
  modify fun r => { r with around := r.around + 1 }

mutual

/-- Read expressions with bars between them. Where the groups of each start with the same number,
that number is given. -/
def readBranches : Nat → Option Nat → ReadM Node
  | 0, _ => throw .openGroup
  | fuel + 1, base? => do
    if let some base := base? then modify fun r => { r with groups := base }
    let e ← readSequence fuel []
    if ← pass "|" then
      let groups := (← get).groups
      let others ← readBranches fuel base?
      modify fun r => { r with groups := if base?.isSome then max groups r.groups else r.groups }
      return .either e others
    return e

/-- Read expressions that follow one another. Those before, the latest first, are given. -/
def readSequence : Nat → List Node → ReadM Node
  | 0, _ => throw .openGroup
  | fuel + 1, before => do
    match ← readItem fuel with
    | .stop => return Node.sequence before.reverse
    | .nothing => readSequence fuel before
    | .node e canRepeat =>
      passSpacing ((← get).rest.length + 1)
      let bounds? ← if (← get).literal then pure none else readBounds?
      match bounds? with
      | none => readSequence fuel (e :: before)
      | some (least, most?) =>
        if !canRepeat then throw .nothingToRepeat
        let hurry ← readHurry
        passSpacing ((← get).rest.length + 1)
        let here ← get
        if !here.literal && (← readBounds?).isSome then throw .nothingToRepeat
        set here
        readSequence fuel (.times e least most? hurry :: before)

/-- Read one item. -/
def readItem : Nat → ReadM Item
  | 0 => throw .openGroup
  | fuel + 1 => do
    passSpacing ((← get).rest.length + 1)
    let r ← get
    let plain (c : Char) : Item := .node (.one false r.flags.folds [.range c.toNat c.toNat]) true
    match r.rest with
    | [] => return .stop
    | c :: rest =>
      if r.literal then
        goTo rest
        return plain c
      match c with
      | ')' | '|' => return .stop
      | '(' =>
        goTo rest
        readGroup fuel
      | '[' =>
        goTo rest
        return .node (← readSet) true
      | '.' =>
        goTo rest
        return .node (.one true false (if r.flags.dotAll then [] else [.range 10 10])) true
      | '^' =>
        goTo rest
        return .node (.edge (if r.flags.lines then .lineStart else .start)) false
      | '$' =>
        goTo rest
        return .node (.edge (if r.flags.lines then .lineStop else .stop)) false
      | '\\' =>
        goTo rest
        match ← readEscape false with
        | .nothing | .quote => return .nothing
        | .char n => return .node (.one false r.flags.folds [.range n n]) true
        | .set negated k => return .node (.one false false [.class_ negated r.wide k]) true
        | .edge e => return .node (.edge e) false
        | .node e => return .node e true
        | .line => return .node (.one true false [.range 10 10]) true
        | .lineEnd => return .node .anyLineEnd true
        | .cluster => return .node .cluster true
        | .single => return .node (.one true false []) true
        | .keep =>
          if r.around ≠ 0 then noteLate .keepAround
          return .node .keep false
      | _ =>
        if (← readBounds?).isSome then throw .nothingToRepeat
        goTo rest
        return plain c

/-- Read the rest of a group whose beginning is passed, and make something of it. -/
def readInner : Nat → Option Nat → (Node → Node) → ReadM Item
  | 0, _, _ => throw .openGroup
  | fuel + 1, base?, make => do
    let before ← get
    let e ← readBranches fuel base?
    expect ")" .openGroup
    modify fun r => { r with flags := before.flags }
    return .node (make e) true

/-- Read what stands around something. -/
def readAround : Nat → (Node → Node) → ReadM Item
  | 0, _ => throw .openGroup
  | fuel + 1, make => do
    let around := (← get).around
    enterAround
    let item ← readInner fuel none make
    modify fun r => { r with around }
    return item

/-- Read a choice, whose condition comes next. -/
def readChoice : Nat → ReadM Item
  | 0 => throw .openGroup
  | fuel + 1 => do
    let r ← get
    let isDefinition := "DEFINE)".toList.isPrefixOf r.rest
    let make ← match r.rest with
      | '?' :: c :: d :: _ =>
        if c = '=' || c = '!' || c = '<' && (d = '=' || d = '!') then do
          match ← readGroup fuel with
          | .node e _ => pure (Node.choose e)
          | _ => throw .condition
        else throw .condition
      | '?' :: _ => throw .condition
      | _ => do
        let t ← readTest
        pure (Node.choice t)
    let before ← get
    let e ← readBranches fuel none
    expect ")" .openGroup
    modify fun r => { r with flags := before.flags }
    match e.branches with
    | [yes, no] =>
      if isDefinition then noteLate .defineBranches
      return .node (make yes no) true
    | [yes] => return .node (make yes .empty) true
    | branches =>
      noteLate (if isDefinition then .defineBranches else .conditionBranches)
      return .node (make (Node.sequence branches) .empty) true

/-- Read a group whose opening parenthesis is passed. -/
def readGroup : Nat → ReadM Item
  | 0 => throw .openGroup
  | fuel + 1 => do
    let r ← get
    match r.rest with
    | '*' :: c :: _ =>
      if c.isLower then
        goTo (r.rest.drop 1)
        let name := (r.rest.drop 1).takeWhile isNameChar
        goTo (r.rest.drop (name.length + 1))
        unless ← pass ":" do throw .assertion
        let word := String.ofList name
        if ["atomic", "asr", "atomic_script_run"].contains word then
          return ← readInner fuel none Node.atomic
        if word = "sr" || word = "script_run" then return ← readInner fuel none id
        match lookNames.lookup word with
        | none => throw .assertion
        | some (true, wanted) => return ← readAround fuel (Node.ahead wanted)
        | some (false, wanted) => return ← readAround fuel (Node.behind wanted)
      if c.isUpper || c = ':' then
        goTo (r.rest.drop 1)
        let e ← readVerb
        return .node e (e matches .accept)
      let n ← openGroup none
      return ← readInner fuel none (Node.group n)
    | '?' :: rest =>
      goTo rest
      match rest with
      | [] => throw .openGroup
      | ':' :: rest =>
        goTo rest
        readInner fuel none id
      | '|' :: rest =>
        goTo rest
        readInner fuel (some r.groups) id
      | '>' :: rest =>
        goTo rest
        readInner fuel none Node.atomic
      | '=' :: rest | '*' :: rest =>
        goTo rest
        readAround fuel (Node.ahead true)
      | '!' :: rest =>
        goTo rest
        readAround fuel (Node.ahead false)
      | '<' :: '=' :: rest | '<' :: '*' :: rest =>
        goTo rest
        readAround fuel (Node.behind true)
      | '<' :: '!' :: rest =>
        goTo rest
        readAround fuel (Node.behind false)
      | '<' :: rest =>
        goTo rest
        let n ← openGroup (some (← readName ">"))
        readInner fuel none (Node.group n)
      | '\'' :: rest =>
        goTo rest
        let n ← openGroup (some (← readName "'"))
        readInner fuel none (Node.group n)
      | 'P' :: rest =>
        match rest with
        | [] => throw .openGroup
        | '<' :: rest =>
          goTo rest
          let n ← openGroup (some (← readName ">"))
          readInner fuel none (Node.group n)
        | '=' :: rest =>
          goTo rest
          return .node (.again (.name (← readName ")")) r.flags.folds) true
        | '>' :: rest =>
          goTo rest
          return .node (.call (.name (← readName ")"))) true
        | _ => throw .groupLetter
      | '&' :: rest =>
        goTo rest
        return .node (.call (.name (← readName ")"))) true
      | 'R' :: rest =>
        goTo rest
        expect ")" .wholeCall
        return .node (.call (.number 0)) true
      | '(' :: rest =>
        goTo rest
        readChoice fuel
      | 'C' :: rest =>
        goTo rest
        let n := (← readNumber?).getD 0
        if 255 < n then throw .calloutSize
        expect ")" .openCallout
        return .nothing
      | sign :: rest =>
        let isRelative := sign = '+' || sign = '-' && rest.head?.any Char.isDigit
        if sign.isDigit || isRelative then
          if isRelative then goTo rest
          match ← readNumber? with
          | none => throw .relativeDigit
          | some n =>
            if maxGroup < n then throw .groupSize
            let n ← if isRelative then relative (sign = '+') n else pure n
            expect ")" .openGroup
            return .node (.call (.number n)) true
        else
          let cleared ← pass "^"
          let flags := if cleared then
              { r.flags with
                folds := false, lines := false, dotAll := false, spaced := false
                spacedSets := false, unnumbered := false }
            else r.flags
          let (isGroup, f) ← readFlags (rest.length + 2) true (!cleared) flags
          if isGroup then
            modify fun r => { r with flags := f }
            let item ← readInner fuel none id
            modify fun now => { now with flags := r.flags }
            return item
          modify fun r => { r with flags := f }
          return .nothing
    | _ =>
      if r.flags.unnumbered then readInner fuel none id
      else
        let n ← openGroup none
        readInner fuel none (Node.group n)

end

/-- The settings that may stand in front of an expression. -/
def settings : List String :=
  ["UTF", "UCP", "NO_AUTO_POSSESS", "NO_START_OPT", "NO_JIT", "NO_DOTSTAR_ANCHOR", "NOTEMPTY",
    "NOTEMPTY_ATSTART", "LF", "BSR_UNICODE", "BSR_ANYCRLF"]

/-- Read the settings in front of an expression, so many at most. -/
def readSettings : Nat → ReadM Unit
  | 0 => return
  | fuel + 1 => do
    let r ← get
    match settings.find? fun w => ("(*" ++ w ++ ")").toList.isPrefixOf r.rest with
    | some w =>
      set { r with rest := r.rest.drop (w.length + 3), wide := r.wide || w = "UCP" }
      readSettings fuel
    | none => return

/-- Read a whole expression. -/
def readAll : ReadM Node := do
  let length := (← get).rest.length
  readSettings length
  let e ← readBranches (8 * length + 16) none
  if !(← get).rest.isEmpty then throw .closedGroup
  return e

/-- Read a text as an expression. -/
def Grammar.read (start : Reader) : Except Fault Grammar := do
  let (root, r) ← readAll.run start
  let g : Grammar := { root, names := r.names, count := r.groups }
  for behind in root.behinds do
    for branch in behind.branches do
      let _ ← g.width branch
  if root.references.any g.misses then throw .reference
  if let some f := r.late? then throw f
  return g

end SessionHandoff.Tools.Searching.Perl
