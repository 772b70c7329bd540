import SessionHandoff.Tools.Searching.Perl.Matching
import SessionHandoff.Tools.Searching.Perl.Reading
import SessionHandoff.Tools.Searching.Reading
import SessionHandoff.Tools.Searching.Request

/-!
# Finding parts of lines

A finder is what the expressions of a request come to, with what the request asks of matches: that
they are whole lines or whole words. In a line it finds the first part from a place on that matches;
of expressions in the plainer dialects that part is as long as possible. Lines are chosen by an
expression of their own. Where that can be matched only by looking back or not code by code, a
relaxed form of it is a first test, and whether there is any part decides, which can be told with
less work than where it is.
-/

set_option autoImplicit false

namespace SessionHandoff.Tools.Searching

/-- What is found. -/
inductive Found where
  | part (start stop : Nat)
  | nothing
  /-- Looking for it takes too long. -/
  | tooLong
deriving DecidableEq, Repr

/-- What is looked for. -/
inductive Target where
  | expression (e : Expression)
  | grammar (g : Perl.Grammar)

/-- What chooses lines. -/
structure Choice where
  expression : Expression
  /-- Whether a line that it matches is chosen for that. -/
  decides : Bool

/-- What finds parts of lines. -/
structure Finder where
  target : Target
  /-- Whether whole words are looked for, or whole lines. -/
  words : Bool := false
  lines : Bool := false
  /-- Whether the end of a line matches along with it. -/
  takesEnd : Bool := false
  /-- Whether places inside of characters are looked at, too. -/
  octetwise : Bool := false
  choice? : Option Choice := none

namespace Finder

/-- The end of what matches at a place: as far as possible, but where words are asked for only
where words start and end. -/
def endAt? (f : Finder) (e : Expression) (l : Line) (i : Nat) : Option Nat :=
  let stops := (e.ends l [{ at_ := i }]).map Spot.at_
  if f.lines then if i = 0 && stops.contains l.codes.size then some l.codes.size else none
  else
    match stops.max? with
    | none => none
    | some longest =>
      if f.words then
        if l.isWordBefore i then none
        else ((stops.filter fun j => !l.isWord j && (j = longest || i < j))).max?
      else some longest

/-- The first part from a place on that matches, among so many places. -/
def firstPart? (f : Finder) (e : Expression) (l : Line) : Nat → Nat → Option (Nat × Nat)
  | 0, _ => none
  | fuel + 1, i =>
    if l.codes.size < i then none
    else
      match f.endAt? e l i with
      | some j => some (i, j)
      | none => f.firstPart? e l fuel (i + 1)

/-- The finder for parts of lines that are chosen already: whole lines need not be looked for again
unless they have to be words, too. -/
def afterChoice (f : Finder) : Finder :=
  { f with lines := f.lines && (f.words || f.choice?.isNone) }

/-- The first part of a line from a place on that matches. -/
def find (f : Finder) (l : Line) (i : Nat) : Found :=
  match f.target with
  | .expression e =>
    match f.afterChoice.firstPart? e l (l.codes.size + 1 - i) i with
    | some (start, stop) => .part start stop
    | none => .nothing
  | .grammar g =>
    match Perl.find? g l i with
    | some (some (start, stop)) => .part start stop
    | some none => .nothing
    | none => .tooLong

/-- Whether nothing is a match inside of some character of a line. Such a place is no part of a word
if the character is none. -/
def matchesInside (f : Finder) (e : Expression) (l : Line) : Bool :=
  f.octetwise && l.charset = .utf8 && e.matchesNothing &&
    l.codes.any fun code => 0x80 ≤ code && code < Characters.strayBase && !l.belongs code

/-- Whether an expression matches somewhere in a line. -/
def matchesSomewhere (e : Expression) (l : Line) : Bool :=
  !(e.ends l ((List.range (l.codes.size + 1)).map fun i => { at_ := i })).isEmpty

/-- Whether there is any part of a line that matches an expression. -/
def hasPart (f : Finder) (e : Expression) (l : Line) : Bool :=
  if f.lines then (f.endAt? e l 0).isSome
  else if f.words && f.matchesInside e l then true
  else if f.words && f.choice?.isSome then f.find l 0 ≠ .nothing
  else if f.words then
    let starts := (List.range (l.codes.size + 1)).filter fun i => !l.isWordBefore i
    (e.ends l (starts.map fun i => { at_ := i })).any fun s => !l.isWord s.at_
  else matchesSomewhere e l

/-- Whether a line matches, if that can be told. -/
def matches? (f : Finder) (l : Line) : Option Bool :=
  match f.target with
  | .grammar _ =>
    match f.find l 0 with
    | .part _ _ => some true
    | .nothing => some false
    | .tooLong => none
  | .expression e =>
    match f.choice? with
    | none => some (f.hasPart e l)
    | some choice =>
      some (matchesSomewhere choice.expression l && (choice.decides || f.hasPart e l))

end Finder

namespace Request

/-- Read an expression in one of the plainer dialects. -/
def readExpression (r : Request) (cs : Characters.Charset) (purpose : Purpose)
    (text : List Char) : Except Fault Expression × List String :=
  if r.dialect? = some .fixed then (.ok (Expression.ofCodes (cs.codes text)), [])
  else
    Expression.read
      { rest := text, extended := r.dialect? = some .extended, purpose, folds := r.folds,
        charset := cs, zeros := r.zeros }

/-- The text that an expression without operators stands for: a backslash keeps what follows it from
being an operator, and stands for itself at the very end. -/
def plainText? (extended isLast : Bool) : List Char → Option (List Char)
  | [] => some []
  | ['\\'] => if isLast then some ['\\'] else none
  | '\\' :: c :: rest =>
    if "BSWbsw'<>123456789".toList.contains c || c.toNat = 96 ||
        !extended && "(|)+?\x7b".toList.contains c then none
    else (plainText? extended isLast rest).map (c :: ·)
  | c :: rest =>
    if "$*.[^".toList.contains c || extended && "(|+?\x7b".toList.contains c then none
    else (plainText? extended isLast rest).map (c :: ·)

/-- Whether a code has as many octets in its small and its capital form. -/
def foldsInPlace (cs : Characters.Charset) (code : Nat) : Bool :=
  cs = .octets ||
    if code < 0x80 then !"iIsS".toList.any (·.toNat = code)
    else cs.toSmall code = code && cs.toCapital code = code

/-- Expressions as texts, if they are without operators, and where small and capital letters are the
same without letters of which some form has more octets. -/
def plainSources? (r : Request) (cs : Characters.Charset) : List Source → Option (List Source)
  | [] => some []
  | s :: rest => do
    let text ← plainText? (r.dialect? = some .extended) rest.isEmpty s.text
    let isFit (code : Nat) : Bool :=
      code < Characters.strayBase && (!r.folds || foldsInPlace cs code)
    if (cs.codes text).all isFit then return { s with text } :: (← plainSources? r cs rest)
    else none

/-- The text of the expression that lines are chosen by: the expressions on lines of their own, in a
group between what stands around a whole line or a whole word if such are asked for. -/
def choiceText (r : Request) (sources : List Source) : List Char :=
  let text := ['\n'].intercalate (sources.map Source.text)
  let (before, after) :=
    if r.lines then ("^(", ")$")
    else if r.words then ("(^|[^[:alnum:]_])(", ")([^[:alnum:]_]|$)")
    else ("", "")
  let marks (s : String) : List Char :=
    if r.dialect? = some .extended then s.toList
    else s.toList.flatMap fun c => if "(|)".toList.contains c then ['\\', c] else [c]
  marks before ++ text ++ marks after

/-- What chooses lines, unless expressions are texts as they are. -/
def choice? (r : Request) (sources : List Source) : ToolM (Option Choice) := do
  if r.dialect? = some .fixed then return none
  let cs := (← get).charset
  let (e?, warnings) := r.readExpression cs .lines (r.choiceText sources)
  for name in warnings do
    complain ("warning: " ++ name ++ " at start of expression")
  match e? with
  | .error f => fail f.message
  | .ok e => return some ⟨e.relaxed cs, !e.asksAgain && (cs = .octets || e.isOctetwise)⟩

/-- The finder for expressions in one of the plainer dialects. -/
def expressionFinder (r : Request) (sources : List Source) : ToolM Finder := do
  let cs := (← get).charset
  let mut found : Option Expression := none
  let mut good := true
  for s in sources do
    match (r.readExpression cs .parts s.text).1 with
    | .error f =>
      complain (s.place ++ f.message)
      good := false
    | .ok e =>
      found := some (match found with
        | none => e
        | some before => .either before e)
  unless good do leave 2
  let e := found.getD .empty
  return {
    target := .expression e
    words := r.words
    lines := r.lines
    takesEnd := r.words && r.lines && r.dialect? ≠ some .fixed
    choice? := ← r.choice? sources
    octetwise := r.dialect? = some .fixed || !r.folds && e.isOctetwise }

/-- The finder for an expression of the richer dialect. -/
def grammarFinder (r : Request) (sources : List Source) : ToolM Finder := do
  let text ← match sources with
    | [s] => pure s.text
    | _ => fail "the -P option only supports a single pattern"
  let text := if r.words then "(?<!\\w)(?:".toList ++ text ++ ")(?!\\w)".toList else text
  let charset := (← get).charset
  let rest := (charset.codes text).map Char.ofNat
  match Perl.Grammar.read { rest, charset, flags := { folds := r.folds } } with
  | .error f => fail f.message
  | .ok g => return { target := .grammar (if r.lines then g.wholeLine else g) }

/-- The finder that a request asks for. Several expressions without operators are texts as they
are. -/
def finder (r : Request) : ToolM Finder := do
  let sources := r.sources?.getD []
  if r.dialect? = some .perl then return ← r.grammarFinder sources
  let cs := (← get).charset
  let several := (sources.map Source.text).eraseDups.length > 1
  let plain? := if several && r.dialect? ≠ some .fixed then r.plainSources? cs sources else none
  match plain? with
  | some plain => expressionFinder { r with dialect? := some .fixed } plain
  | none => r.expressionFinder sources

end Request

end SessionHandoff.Tools.Searching
