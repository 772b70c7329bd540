import SessionHandoff.Text.Digits
import SessionHandoff.Tools.Searching.Expression

/-!
# Reading regular expressions

Expressions are written in two ways. In basic expressions the operators other than the star stand
behind a backslash; in extended ones they stand for themselves, and behind a backslash for an octet.

An operator repeats what stands before it. Where nothing stands there, or only a condition on a
place, its meaning depends on what the expression is read for. To choose lines, an extended operator
works on the condition or on nothing, and the latter is worth a warning; a basic one works on the
condition unless it begins the expression, and is an octet where nothing stands before it. To find
parts of lines, an extended operator is passed over, and a basic one is an octet.
-/

set_option autoImplicit false

namespace SessionHandoff.Tools.Searching

open Characters (Charset)

/-- Why a text is no expression. -/
inductive Fault where
  | openGroup | closedGroup | openBrackets | noBrackets | range | className | classForm
  | collation | openInterval | interval | size | backslash | reference
  /-- An interval that lines cannot be chosen by, and one of a size that they cannot. -/
  | choosingInterval | choosingSize
deriving DecidableEq, Repr

/-- What is said about a fault. -/
def Fault.message : Fault → String
  | .openGroup => "Unmatched ( or \\("
  | .closedGroup => "Unmatched ) or \\)"
  | .openBrackets => "Unmatched [, [^, [:, [., or [="
  | .noBrackets => "Invalid regular expression"
  | .range => "Invalid range end"
  | .className => "Invalid character class name"
  | .classForm => "character class syntax is [[:space:]], not [:space:]"
  | .collation => "Invalid collation character"
  | .openInterval => "Unmatched \\\x7b"
  | .interval => "Invalid content of \\\x7b\\\x7d"
  | .size => "Regular expression too big"
  | .backslash => "Trailing backslash"
  | .reference => "Invalid back reference"
  | .choosingInterval => "invalid content of \\\x7b\\\x7d"
  | .choosingSize => "regular expression too big"

/-- What an expression is read for. -/
inductive Purpose where
  | lines | parts
deriving DecidableEq, Repr

/-- A reader of expressions. -/
structure Reader where
  rest : List Char
  extended : Bool
  purpose : Purpose := .parts
  /-- Whether small and capital letters are the same. -/
  folds : Bool := false
  charset : Charset := .octets
  /-- Whether lines end with the octet zero. -/
  zeros : Bool := false
  /-- Whether nothing but conditions that begin the expression stands before. -/
  atStart : Bool := true
  /-- Whether nothing at all stands before in the sequence. -/
  begins : Bool := true
  /-- How many groups are open. -/
  depth : Nat := 0
  /-- How many groups were begun. -/
  groups : Nat := 0
  /-- The groups that have ended. -/
  ended : List Nat := []
  /-- Whether a condition on a place stands right before. -/
  afterEdge : Bool := false
  /-- The operators that work on nothing, the latest first. -/
  warnings : List String := []

/-- Reading an expression. -/
abbrev ReadM := ExceptT Fault (StateM Reader)

/-! ## Brackets -/

/-- The codes of words. -/
def wordMembers : List Member := [.kind .alnum, .code 95]

/-- The codes of blanks. -/
def blankMembers : List Member := [.kind .space]

/-- An element between brackets. -/
inductive Element where
  | code (n : Nat)
  | member (m : Member)

/-- The name before a mark and a closing bracket, and what follows. -/
def readName (mark : Char) : List Char → Option (List Char × List Char)
  | [] => none
  | c :: ']' :: rest =>
    if c = mark then some ([], rest)
    else (readName mark (']' :: rest)).map fun r => (c :: r.1, r.2)
  | c :: rest => (readName mark rest).map fun r => (c :: r.1, r.2)

/-- Read an element between brackets. -/
def readElement (cs : Charset) : List Char → Except Fault (Element × List Char)
  | [] => .error .openBrackets
  | '[' :: ':' :: rest =>
    match readName ':' rest with
    | none => .error .openBrackets
    | some (name, rest) =>
      match Characters.kinds.lookup (String.ofList name) with
      | some k => .ok (.member (.kind k), rest)
      | none => .error .className
  | '[' :: mark :: rest =>
    if mark = '.' ∨ mark = '=' then
      match readName mark rest with
      | none => .error .openBrackets
      | some ([c], rest) =>
        if mark = '.' then .ok (.code c.toNat, rest)
        else .ok (.member (.code c.toNat), rest)
      | some _ => .error .collation
    else .ok (.code '['.toNat, mark :: rest)
  | c :: rest =>
    let (code, length) := cs.first c rest
    .ok (.code code, rest.drop (length - 1))

/-- The fault of a range, if it has one: only the order of octets and of ASCII is known. Where small
and capital letters are the same, the ends are in the order of capital letters. -/
def rangeFault? (cs : Charset) (folds : Bool) (least greatest : Nat) : Option Fault :=
  let rank (n : Nat) : Nat := if folds then cs.toCapital n else n
  if cs = .utf8 && (128 ≤ least || 128 ≤ greatest) then some .collation
  else if rank greatest < rank least then some .range
  else none

/-- Read the elements up to the closing bracket. -/
def readElements (cs : Charset) (folds : Bool) : Nat → Bool → List Member → List Char →
    Except Fault (List Member × List Char)
  | 0, _, _, _ => .error .openBrackets
  | fuel + 1, first, members, text => do
    match text with
    | ']' :: rest => if !first then return (members, rest)
    | '-' :: c :: _ => if !first && c ≠ ']' then throw .range
    | _ => pure ()
    let (start, rest) ← readElement cs text
    match rest with
    | '-' :: ']' :: _ | [] | [_] => step fuel members start rest
    | '-' :: rest =>
      let (stop, rest) ← readElement cs rest
      match start, stop with
      | .code a, .code b =>
        if let some fault := rangeFault? cs folds a b then throw fault
        readElements cs folds fuel false (.range a b :: members) rest
      | _, _ => throw .range
    | _ => step fuel members start rest
where
  /-- Go on after an element that is no end of a range. -/
  step (fuel : Nat) (members : List Member) (e : Element) (rest : List Char) :
      Except Fault (List Member × List Char) :=
    readElements cs folds fuel false
      ((match e with
        | .code n => if n < 0x80 then .code n else .range n n
        | .member m => m) :: members) rest

/-- Whether brackets look like the inner ones of a class: colons around a name. -/
def looksLikeClass (text : List Char) : Bool :=
  match text with
  | ':' :: rest =>
    let inner := rest.takeWhile (· ≠ ']')
    inner.getLast? == some ':' && inner.any (· ≠ ':') && !inner.contains '[' &&
      !inner.contains '-'
  | _ => false

/-- Read what follows an opening bracket. What looks like the inner brackets of a class is refused
where lines are chosen by it. -/
def readBrackets (purpose : Purpose) (cs : Charset) (folds : Bool) (text : List Char) :
    Except Fault (Expression × List Char) := do
  let (negated, text) : Bool × List Char := match text with
    | '^' :: rest => (true, rest)
    | _ => (false, text)
  if text.isEmpty then throw .noBrackets
  let (members, rest) ← readElements cs folds (text.length + 1) true [] text
  if purpose = .lines && looksLikeClass text then throw .classForm
  return (.one negated members, rest)

/-! ## Operators -/

/-- An operator that repeats what stands before it. -/
structure Repetition where
  least : Nat
  most? : Option Nat
  /-- How it is written in a warning. -/
  name : String

/-- The most often that something can be repeated. -/
def maxTimes : Nat := 32767

/-- Whether an operator repeats something too often. -/
def Repetition.isTooLarge (r : Repetition) : Bool :=
  maxTimes < r.least || r.most?.any (maxTimes < ·)

/-- The bounds of an interval at the start of a text, and what follows them. -/
def readBounds? (text : List Char) : Option (Nat × Option Nat × List Char) :=
  let first := text.takeWhile Char.isDigit
  let least := (Text.natural? first).getD 0
  match text.drop first.length with
  | ',' :: rest =>
    let second := rest.takeWhile Char.isDigit
    some (least, Text.natural? second, rest.drop second.length)
  | rest => if first.isEmpty then none else some (least, some least, rest)

/-- Where a bound of a malformed interval ends. -/
inductive BoundEnd where
  | text | comma | brace
deriving DecidableEq, Repr

/-- Pass over a bound of a malformed interval: whether it is a number, where it ends, and what
follows. -/
def passBound : List Char → Bool × BoundEnd × List Char
  | [] => (true, .text, [])
  | '\\' :: '}' :: rest => (true, .brace, rest)
  | '\\' :: ',' :: rest | ',' :: rest => (true, .comma, rest)
  | c :: rest =>
    let (isNumber, stop, after) := passBound rest
    (isNumber && c.isDigit, stop, after)

/-- What is wrong with a malformed interval: that it does not end, or what is in it. -/
def intervalFault (text : List Char) : Fault :=
  match passBound text with
  | (_, .text, _) => .openInterval
  | (true, .comma, rest) => if (passBound rest).2.1 = .text then .openInterval else .interval
  | _ => .interval

/-- Read an interval behind its opening brace. Nothing if it is none and stands for itself. -/
def readInterval? (purpose : Purpose) (extended : Bool) (text : List Char) :
    Except Fault (Option (Repetition × List Char)) :=
  let refuse : Except Fault (Option (Repetition × List Char)) :=
    if extended then .ok none
    else .error (if purpose = .parts then intervalFault text else .choosingInterval)
  match readBounds? text with
  | none => refuse
  | some (least, most?, rest) =>
    let after? := match extended, rest with
      | true, '}' :: rest => some rest
      | false, '\\' :: '}' :: rest => some rest
      | _, _ => none
    match after? with
    | none => refuse
    | some after =>
      if most?.any (· < least) then if purpose = .parts then .error .interval else refuse
      else .ok (some (⟨least, most?, "\x7b...\x7d"⟩, after))

/-- The operator at the start of the text, and what follows it. -/
def operator? : ReadM (Option (Repetition × List Char)) := do
  let r ← get
  match r.extended, r.rest with
  | _, '*' :: rest => return some (⟨0, none, "*"⟩, rest)
  | true, '+' :: rest | false, '\\' :: '+' :: rest => return some (⟨1, none, "+"⟩, rest)
  | true, '?' :: rest | false, '\\' :: '?' :: rest => return some (⟨0, some 1, "?"⟩, rest)
  | true, '{' :: rest | false, '\\' :: '{' :: rest => readInterval? r.purpose r.extended rest
  | _, _ => return none

/-- Whether an operator may work on what was just read. -/
def takesOperators : ReadM Bool := do
  let r ← get
  return match r.purpose with
    | .lines => r.extended || !r.atStart
    | .parts => !r.begins && !r.afterEdge

/-- Read the operators behind an expression. -/
def readOperators : Nat → Expression → ReadM Expression
  | 0, e => return e
  | fuel + 1, e => do
    unless ← takesOperators do return e
    match ← operator? with
    | none => return e
    | some (op, rest) =>
      let r ← get
      set { r with
        rest
        atStart := r.atStart && op.name.length = 1
        warnings := if r.atStart then op.name :: r.warnings else r.warnings }
      if op.isTooLarge then throw (if r.purpose = .parts then .size else .choosingSize)
      readOperators fuel (.times e op.least op.most?)

/-- What follows an extended operator that is passed over. -/
def passed? : ReadM (Option (List Char)) := do
  let r ← get
  if r.purpose = .parts && r.extended && (r.begins || r.afterEdge) then
    match r.rest with
    | c :: rest => return if "*+?\x7b".toList.contains c then some rest else none
    | [] => return none
  else return none

/-! ## Expressions -/

/-- Go on behind an expression that operators can work on. -/
def advance (rest : List Char) : ReadM Unit :=
  modify fun r => { r with rest, atStart := false, begins := false, afterEdge := false }

/-- Go on behind a condition on a place. -/
def advanceEdge (rest : List Char) : ReadM Unit :=
  modify fun r => { r with rest, begins := false, afterEdge := true }

/-- Go on where an expression begins. -/
def restart (rest : List Char) : ReadM Unit :=
  modify fun r => { r with rest, atStart := true, begins := true, afterEdge := false }

/-- The first character of a text as an expression. -/
def plain (c : Char) (rest : List Char) : ReadM Expression := do
  let (code, length) := (← get).charset.first c rest
  advance (rest.drop (length - 1))
  return .one false [.code code]

/-- The condition on a place that stands behind a backslash. -/
def edge? (c : Char) : Option Edge :=
  [('<', Edge.wordStart), ('>', Edge.wordEnd), ('b', Edge.wordEdge), ('B', Edge.noWordEdge),
    (Char.ofNat 96, Edge.lineStart), ('\'', Edge.lineEnd)].lookup c

/-- Whether an expression ends here: at the end, before a bar, or where its group ends. -/
def endsHere : ReadM Bool := do
  let r ← get
  match r.extended, r.rest with
  | _, [] | _, '\n' :: _ => return true
  | true, '|' :: _ => return true
  | true, ')' :: _ => return decide (r.depth > 0)
  | false, '\\' :: '|' :: _ => return true
  | false, '\\' :: ')' :: _ => return true
  | _, _ => return false

/-- Whether a dollar sign marks the end of a line, by what follows it. -/
def marksEnd (extended : Bool) (rest : List Char) : Bool :=
  extended ||
    match rest with
    | [] | '\n' :: _ | '\\' :: ')' :: _ | '\\' :: '|' :: _ => true
    | _ => false

/-- Read what a backslash and an octet stand for, unless they are an operator or a group. -/
def readEscape (c : Char) (rest : List Char) : ReadM Expression := do
  let r ← get
  match edge? c with
  | some e =>
    advanceEdge rest
    return .edge e
  | none =>
    if '1' ≤ c ∧ c ≤ '9' then
      let n := c.toNat - 48
      if r.purpose = .parts && !r.ended.contains n then throw .reference
      advance rest
      return .again n
    else
      let one (negated : Bool) (members : List Member) : ReadM Expression := do
        advance rest
        return .one negated members
      match c with
      | 'w' => one false wordMembers
      | 'W' => one true wordMembers
      | 's' => one false blankMembers
      | 'S' => one true blankMembers
      | _ => plain c rest

mutual

/-- Read expressions with bars or line ends between them. In each of them, the groups that have
ended are those from before them all. -/
def readEither : Nat → ReadM Expression
  | 0 => return .empty
  | fuel + 1 => do
    let before := (← get).ended
    let e ← readSequence fuel .empty
    let r ← get
    let after? := match r.extended, r.rest with
      | _, '\n' :: rest | true, '|' :: rest | false, '\\' :: '|' :: rest => some rest
      | _, _ => none
    match after? with
    | none => return e
    | some rest =>
      restart rest
      modify fun r => { r with ended := before }
      let others ← readEither fuel
      modify fun after => { after with ended := r.ended ++ after.ended }
      return .either e others

/-- Read expressions that follow one another. -/
def readSequence : Nat → Expression → ReadM Expression
  | 0, before => return before
  | fuel + 1, before => do
    if ← endsHere then return before
    let e ← readOperators fuel (← readOne fuel)
    readSequence fuel (match before with
      | .empty => e
      | _ => .seq before e)

/-- Read one expression. -/
def readOne : Nat → ReadM Expression
  | 0 => return .empty
  | fuel + 1 => do
    let r ← get
    if let some rest ← passed? then
      set { r with rest }
      return ← readOne fuel
    if r.purpose = .lines && r.extended && r.atStart then
      if (← operator?).isSome then return .empty
    match r.extended, r.rest with
    | true, '|' :: _ => return .empty
    | true, '(' :: rest | false, '\\' :: '(' :: rest =>
      let number := r.groups + 1
      restart rest
      modify fun r => { r with depth := r.depth + 1, groups := number }
      let e ← readEither fuel
      let inner ← get
      match inner.extended, inner.rest with
      | true, ')' :: rest | false, '\\' :: ')' :: rest =>
        advance rest
        modify fun after => { after with depth := r.depth, ended := number :: after.ended }
        return .group number e
      | _, _ => throw .openGroup
    | _, '[' :: rest =>
      let (e, rest) ← readBrackets r.purpose r.charset r.folds rest
      advance rest
      return e
    | _, '.' :: rest =>
      advance rest
      return .one true (if r.zeros then [] else [.code 10])
    | extended, '^' :: rest =>
      if extended || r.begins then
        advanceEdge rest
        return .edge .lineStart
      else plain '^' rest
    | extended, '$' :: rest =>
      if marksEnd extended rest then
        advanceEdge rest
        return .edge .lineEnd
      else plain '$' rest
    | _, ['\\'] => throw .backslash
    | _, '\\' :: c :: rest => readEscape c rest
    | _, c :: rest => plain c rest
    | _, [] => return .empty

end

/-- Read a text as an expression. The operators in it that work on nothing come second. -/
def Expression.read (start : Reader) : Except Fault Expression × List String :=
  let read : ReadM Expression := do
    let e ← readEither (3 * start.rest.length + 5)
    unless (← get).rest.isEmpty do throw .closedGroup
    return e.simplified
  let (e?, r) := read.run start
  (e?, r.warnings.reverse)

end SessionHandoff.Tools.Searching
