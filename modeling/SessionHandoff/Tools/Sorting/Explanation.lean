import SessionHandoff.Tools.Sorting.Request

/-!
# Explanations of orders

On request `sort` says how it compares lines, and what in its keys may not be meant so, and marks
below each line the parts that its keys are: an underline for each key, and one for the whole line
if that is compared, too.
-/

set_option autoImplicit false

namespace SessionHandoff.Tools.Sorting

open Characters (Charset)

/-! ## Remarks -/

/-- The octet before the places of a number. -/
def point : Char := '.'

/-- What a style has that another has not. -/
def Style.without (s k : Style) : Style where
  blanksBefore := s.blanksBefore && !k.blanksBefore
  blanksBeforeEnd := s.blanksBeforeEnd && !k.blanksBeforeEnd
  leftOut := if s.leftOut = k.leftOut then .nothing else s.leftOut
  fold := s.fold && !k.fold
  real := s.real && !k.real
  size := s.size && !k.size
  month := s.month && !k.month
  number := s.number && !k.number
  random := s.random && !k.random
  version := s.version && !k.version
  reverse := s.reverse && !k.reverse

namespace Key

/-- Whether a key ends before the field in which it starts. -/
def hasNoWidth (k : Key) : Bool :=
  match k.startField?, k.endField? with
  | some i, some j => j < i
  | _, _ => false

/-- Whether blanks before the fields of a key count, perhaps without being meant to. -/
def countsBlanks (k : Key) : Bool :=
  let s := k.style
  let isWithinFirst := k.endField? = some 0 && k.endOffset ≠ 0
  !k.hasNoWidth && !isWithinFirst &&
    (!s.blanksBefore && !(s.isNumeric || s.month) || !s.blanksBefore && k.startOffset ≠ 0 ||
      !s.blanksBeforeEnd && k.endOffset ≠ 0)

/-- Whether a key is a number and reaches into more than one field. -/
def spansFields (k : Key) : Bool :=
  k.style.isNumeric && k.endField?.all fun j => k.startField?.getD 0 < j

/-- A key as the operands that it was, and as an option says it. -/
def oldAndNew (k : Key) : String × String :=
  let start := k.startField?.getD 0
  let stop (n : Nat) : String := (k.endField?.map fun j => Text.decimalString (j + n)).getD ""
  let isOpen := k.endField?.isNone
  ("+" ++ Text.decimalString start ++ (if isOpen then "" else " -" ++ stop 1),
    "-k " ++ Text.decimalString (start + 1) ++ (if isOpen then "" else "," ++ stop 1))

end Key

namespace Request

/-- Say what is remarkable about a key with a number. -/
def remarkKey (r : Request) (k : Key) (number : Nat) : ToolM Unit := do
  let name := "key " ++ Text.decimalString number
  if k.old then
    let (old, new) := k.oldAndNew
    complain ("obsolescent key " ++ (← inQuotes old) ++ " used; consider " ++ (← inQuotes new) ++
      " instead")
  if k.hasNoWidth then complain (name ++ " has zero width and will be ignored")
  unless r.keys.isEmpty do
    if r.separator?.isNone && k.countsBlanks then
      complain ("leading blanks are significant in " ++ name ++ "; consider also specifying 'b'")
    if k.spansFields then complain (name ++ " is numeric and spans multiple fields")

/-- Say what is remarkable about numbers in keys. -/
def remarkNumbers (r : Request) (keys : List Key) : ToolM Unit := do
  let spanning := if r.keys.isEmpty then [] else keys.filter Key.spansFields
  let remark (sign : String) : ToolM Unit := do
    complain ("field separator " ++ (← inQuotes (String.ofList r.separator?.toList)) ++
      " is treated as a " ++ sign ++ " in numbers")
  let isSplit := !spanning.isEmpty && r.separator? = some point
  if isSplit then remark "decimal point"
  else if !spanning.isEmpty && r.separator? = some '-' then remark "minus sign"
  else if r.separator? = some '+' && spanning.any (·.style.real) then remark "plus sign"
  if keys.any (·.style.isNumeric) && !isSplit then
    complain ((if r.separator? = some point then "" else "note ") ++ "numbers use " ++
      (← inQuotes (String.singleton point)) ++ " as a decimal point in this locale")

/-- Say which parts of the style for all keys are for none. -/
def remarkStyle (r : Request) (keys : List Key) : ToolM Unit := do
  let unused := (keys.map Key.style).foldl Style.without r.style
  let isWhole := !(r.stable || r.unique)
  if !unused.isPlain || unused.reverse && !isWhole && !keys.isEmpty then
    let letters := { unused with reverse := unused.reverse && !isWhole }.letters
    complain ((if letters.length = 1 then "option '-" else "options '-") ++ letters ++
      (if letters.length = 1 then "' is ignored" else "' are ignored"))
  if unused.reverse && isWhole && !keys.isEmpty then
    complain "option '-r' only applies to last-resort comparison"

/-- Say how lines are compared. -/
def remark (r : Request) : ToolM Unit := do
  let environment := (← get).process.environment
  let habits := Charset.habitsHeld environment "LC_COLLATE"
  if !Charset.areKnown environment then complain "failed to set locale"
  if Charset.arePlain habits then complain "text ordering performed using simple byte comparison"
  else complain ("text ordering performed using " ++ (← inQuotes habits) ++ " sorting rules")
  let keys := r.allKeys
  for (k, i) in keys.zipIdx do r.remarkKey k (i + 1)
  r.remarkNumbers keys
  r.remarkStyle keys

end Request

/-! ## Marks -/

/-- The number of octets at the start of a text that a number is, with a unit if there may be
one. -/
def numberReach (units : Bool) (text : List Char) : Nat :=
  let body := if text.head? = some '-' then text.drop 1 else text
  let whole := body.takeWhile Char.isDigit
  let rest := body.drop whole.length
  let (places, rest) : List Char × List Char := match rest with
    | '.' :: after => (after.takeWhile Char.isDigit, after.dropWhile Char.isDigit)
    | _ => ([], rest)
  if whole.isEmpty && places.isEmpty then 0
  else
    let unit := if units && rest.head?.any fun c => unitPlace c ≠ 0 then 1 else 0
    text.length - rest.length + unit

/-- The number of octets at the start of a text without blanks in front that count. -/
def Style.reach (s : Style) (text : List Char) : Nat :=
  if s.month then if monthOf text = 0 then 0 else 3
  else if s.real then ((Text.readWritten? text).map fun w => text.length - w.rest.length).getD 0
  else if s.isNumeric then numberReach s.size text
  else text.length

/-- The part of a line before the part that counts of a key, and that part. Where a key ends before
it starts, all blanks from its start on are passed. -/
def Key.marked (k : Key) (separator? : Option Char) (line : List Char) : List Char × List Char :=
  let s := k.style
  let start := if k.startField?.isSome then k.start separator? line else 0
  let stop := k.stop separator? line
  let part := if stop < start then line.drop start else (line.drop start).take (stop - start)
  let isTrimmed := s.blanksBefore && k.startField?.isNone || s.month || s.isNumeric
  let body := if isTrimmed then part.dropWhile isBlank else part
  (line.take (start + (part.length - body.length)),
    if stop < start then [] else body.take (s.reach body))

/-- The octets that the first octet of a character announces, itself included. -/
def announced (c : Char) : Nat :=
  let n := c.toNat
  if 0xF0 ≤ n && n < 0xF5 then 4 else if 0xE0 ≤ n then 3 else if 0xC2 ≤ n then 2 else 1

/-- The number of octets at the end of a text that a character starts with. -/
def cutLength (text : List Char) : Nat :=
  let tail := (text.drop (text.length - 3)).reverse
  let after := tail.takeWhile fun c => 0x80 ≤ c.toNat && c.toNat < 0xC0
  match tail.drop after.length with
  | c :: _ => if after.length + 1 < announced c then after.length + 1 else 0
  | [] => 0

/-- The number of columns that a text takes, of which a tab takes one. What is no character takes
one, too, and so does a character that is cut at the end. -/
def columns (cs : Charset) (text : List Char) : Nat :=
  let cut := if cs = .utf8 then cutLength text else 0
  let columnsOf (code : Nat) : Nat :=
    if code = 9 then 1
    else if cs.isKind .print code then Characters.width code
    else if cs.isKind .cntrl code then 0
    else 1
  (cs.codes (text.take (text.length - cut))).foldl (fun n code => n + columnsOf code) (min cut 1)

/-- The line that marks a part of another. -/
def underline (cs : Charset) (before part : List Char) : List Char :=
  let width := columns cs part
  List.replicate (columns cs before) ' ' ++
    (if width = 0 then "^ no match for key".toList else List.replicate width '_') ++ ['\n']

/-- A line with what marks its keys. -/
def Request.explained (r : Request) (cs : Charset) (line : List Char) : List Char :=
  let keys := r.allKeys
  let marks := keys.flatMap fun k =>
    let (before, part) := k.marked r.separator? line
    underline cs before part
  let whole := if keys.isEmpty || !(r.unique || r.stable) then underline cs [] line else []
  line.map (fun c => if c = '\t' then '>' else c) ++ '\n' :: (marks ++ whole)

end SessionHandoff.Tools.Sorting
