import SessionHandoff.Shell.Builtin.Call
import SessionHandoff.Text.Formatted

/-!
# Printing

`echo` writes its arguments, and `printf` fills its arguments into a format. Both replace escapes: a
backslash with a letter or with octal digits stands for a character.
-/

set_option autoImplicit false

namespace SessionHandoff.Shell

open SessionHandoff.Text (Directive)

/-! ## Escapes -/

/-- The characters that letters after a backslash stand for. -/
def escapeLetters : List (Char × Nat) :=
  [('\\', 92), ('a', 7), ('b', 8), ('e', 27), ('f', 12), ('n', 10), ('r', 13), ('t', 9), ('v', 11)]

/-- Whether a character is an octal digit. -/
def isOctal (c : Char) : Bool :=
  '0' ≤ c && c ≤ '7'

/-- The character that a text after a backslash stands for, and what follows. -/
def readEscaped (text : List Char) : Char × List Char :=
  let octal := (text.take 3).takeWhile isOctal
  if !octal.isEmpty then
    let n := octal.foldl (fun n c => 8 * n + (c.toNat - 48)) 0
    (Char.ofNat (n % 256), text.drop octal.length)
  else
    match text with
    | c :: rest =>
      match escapeLetters.lookup c with
      | some n => (Char.ofNat n, rest)
      | none => ('\\', text)
    | [] => ('\\', [])

/-- A text with its escapes replaced, so many at most, and whether an escape ended all output. Three
octal digits may follow a zero. -/
def unescape : Nat → List Char → List Char × Bool
  | 0, _ => ([], false)
  | _ + 1, [] => ([], false)
  | fuel + 1, '\\' :: text =>
    match text with
    | 'c' :: _ => ([], true)
    | _ =>
      let text := match text with
        | '0' :: d :: rest => if isOctal d then d :: rest else text
        | _ => text
      let (c, rest) := readEscaped text
      let r := unescape fuel rest
      (c :: r.1, r.2)
  | fuel + 1, c :: text =>
    let r := unescape fuel text
    (c :: r.1, r.2)

/-! ## Echo -/

/-- What `echo` writes of its arguments. -/
def echoed (endsLine : Bool) : List String → List Char
  | [] => if endsLine then ['\n'] else []
  | arg :: rest =>
    let r := unescape (arg.length + 1) arg.toList
    if r.2 then r.1
    else r.1 ++ (if rest.isEmpty then [] else [' ']) ++ echoed endsLine rest

/-- Write arguments. -/
def echo : Builtin := fun call => do
  let quiet := call.args.head? = some "-n"
  emit (String.ofList (echoed (!quiet) (if quiet then call.args.drop 1 else call.args)))
  return 0

/-! ## Formats -/

/-- A format that is being filled. -/
structure Filling where
  args : List String
  /-- What was written, the latest piece first. -/
  pieces : List (List Char) := []
  status : Nat := 0
  /-- Whether some argument was used. -/
  used : Bool := false

/-- Filling a format. -/
abbrev FillM := StateT Filling ShellM

/-- Write a piece. -/
def put (piece : List Char) : FillM Unit :=
  modify fun f => { f with pieces := piece :: f.pieces }

/-- The next argument. -/
def nextArgument? : FillM (Option String) := do
  let f ← get
  match f.args with
  | [] => return none
  | arg :: args =>
    set { f with args, used := true }
    return some arg

/-- Fill the output of a format into that of the command, and stop at an error in it. -/
def refuseFormat {α : Type} (message : String) : FillM α := do
  let f ← get
  (do
    emit (String.join (f.pieces.reverse.map String.ofList))
    fail message : ShellM α)

/-- Say what is wrong with an argument, and go on. -/
def remark (message : String) : FillM Unit := do
  complain message
  modify fun f => { f with status := 1 }

/-- Say what is wrong with the conversion of an argument: what follows the number in it, and whether
the number is out of range. -/
def checkNumber (arg : String) (rest : List Char) (outOfRange : Bool) : FillM Unit := do
  if !rest.isEmpty then
    remark (arg ++ (if rest.length = arg.length then ": expected numeric value"
      else ": not completely converted"))
  else if outOfRange then remark (arg ++ ": Numerical result out of range")

/-- The character after a quote at the start of an argument, as a number. -/
def quotedCharacter? (arg : String) : Option Nat :=
  match arg.toList with
  | c :: rest => if c = '"' || c = '\'' then some ((rest.headD (Char.ofNat 0)).toNat) else none
  | [] => none

/-- The integer that an argument starts with, in bases named by their prefixes. -/
def readAnyInteger (text : List Char) : Option Int × List Char :=
  let start := text.dropWhile isBlankChar
  let (negative, digits) : Bool × List Char := match start with
    | '-' :: rest => (true, rest)
    | '+' :: rest => (false, rest)
    | rest => (false, rest)
  match digits with
  | '0' :: b :: d :: _ =>
    if (b = 'b' || b = 'B') && (d = '0' || d = '1') then
      let ds := (digits.drop 2).takeWhile fun c => c == '0' || c == '1'
      let n : Int := ds.foldl (fun n c => 2 * n + ((c.toNat - 48 : Nat) : Int)) 0
      (some (if negative then -n else n), digits.drop (2 + ds.length))
    else readInteger none text
  | _ => readInteger none text

/-- The next argument as an integer: whether it has a sign or wraps around. -/
def nextInteger (signed : Bool) : FillM Int := do
  match ← nextArgument? with
  | none => return 0
  | some arg =>
    if let some n := quotedCharacter? arg then return n
    let (n?, rest) := readAnyInteger arg.toList
    let n := n?.getD 0
    let top : Int := 18446744073709551616
    if signed then
      checkNumber arg rest (clamp n ≠ n)
      return clamp n
    else
      let fits := -top < n && n < top
      checkNumber arg rest !fits
      return if fits then n % top else top - 1

/-- The next argument as a real. -/
def nextReal : FillM Text.Real := do
  let zero : Text.Real := .finite false Json.Binary64.zero
  match ← nextArgument? with
  | none => return zero
  | some arg =>
    if let some n := quotedCharacter? arg then
      return .finite false ((Json.Binary64.nearest n 1).getD Json.Binary64.zero)
    match Text.readReal? arg.toList with
    | none =>
      checkNumber arg arg.toList false
      return zero
    | some r =>
      checkNumber arg r.rest r.outOfRange
      return r.value

/-- A number that is written in a directive or is the next argument, of which 32 bits count. -/
def readMeasure (text : List Char) : FillM (Option Int × List Char) := do
  match text with
  | '*' :: rest => return (some (Int.bmod (← nextInteger true) (1 <<< 32)), rest)
  | _ =>
    let ds := text.takeWhile Char.isDigit
    return ((Text.natural? ds).map Int.ofNat, text.drop ds.length)

/-- Read a directive after the percent sign, to its letter. -/
def readDirective (text : List Char) : FillM (Directive × List Char) := do
  let flags := text.takeWhile fun c => "#-+ 0".toList.contains c
  let (width?, rest) ← readMeasure (text.drop flags.length)
  let (precision?, rest) ← (do
    match rest with
    | '.' :: rest =>
      let (n?, rest) ← readMeasure rest
      return (some (n?.getD 0), rest)
    | _ => return (none, rest) : FillM (Option Int × List Char))
  let width := width?.getD 0
  return ({
    left := flags.contains '-' || width < 0
    plus := flags.contains '+'
    space := flags.contains ' '
    alternate := flags.contains '#'
    zeros := flags.contains '0'
    width := width.natAbs
    precision? := precision?.bind fun n => if n < 0 then none else some n.toNat }, rest)

/-- The greatest width and precision for which there is room. -/
def maxMeasure : Nat := 2000000

/-- Write an argument as a directive says, if there is room for it. -/
def putDirected (d : Directive) (piece : Unit → List Char) : FillM Unit := do
  if maxMeasure < d.width || d.precision?.any (maxMeasure < ·) then
    refuseFormat "xvsnprintf failed"
  put (piece ())

/-- Fill one directive, whose text is given for complaints. Returns whether all output has
ended. -/
def fillDirective (d : Directive) (letter : Char) (written : List Char) : FillM Bool := do
  if letter = 's' then
    let arg := (← nextArgument?).getD ""
    putDirected d fun _ => d.text arg.toList
    return false
  else if letter = 'b' then
    let arg := (← nextArgument?).getD ""
    let r := unescape (arg.length + 1) arg.toList
    putDirected d fun _ => d.text r.1
    return r.2
  else if letter = 'c' then
    let arg := (← nextArgument?).getD ""
    putDirected d fun _ => d.align [arg.toList.headD (Char.ofNat 0)]
    return false
  else if letter = 'd' || letter = 'i' then
    let n ← nextInteger true
    putDirected d fun _ => d.integer n
    return false
  else if ['o', 'u', 'x', 'X'].contains letter then
    let n ← nextInteger false
    let base := if letter = 'o' then 8 else if letter = 'u' then 10 else 16
    putDirected d fun _ => d.natural base n.toNat (letter = 'X')
    return false
  else if ['a', 'e', 'f', 'g'].contains letter.toLower then
    let r ← nextReal
    putDirected d fun _ => d.real letter r
    return false
  else refuseFormat (String.ofList written ++ ": invalid directive")

/-- Fill a format once, with so many characters at most. Returns whether all output has ended. -/
def fillOnce : Nat → List Char → FillM Bool
  | 0, _ => return false
  | _ + 1, [] => return false
  | fuel + 1, '\\' :: text => do
    let (c, rest) := readEscaped text
    put [c]
    fillOnce fuel rest
  | fuel + 1, '%' :: '%' :: rest => do
    put ['%']
    fillOnce fuel rest
  | fuel + 1, '%' :: text => do
    let (d, rest) ← readDirective text
    match rest with
    | [] => refuseFormat "missing format character"
    | letter :: rest =>
      if ← fillDirective d letter ('%' :: text.take (text.length - rest.length)) then return true
      fillOnce fuel rest
  | fuel + 1, c :: rest => do
    put [c]
    fillOnce fuel rest

/-- Fill a format until the arguments are used up, so many times at most. -/
def fill (format : List Char) : Nat → FillM Unit
  | 0 => return
  | times + 1 => do
    if ← fillOnce (format.length + 1) format then return
    let f ← get
    if f.used && !f.args.isEmpty then fill format times

/-- Fill arguments into a format. -/
def printf : Builtin := fun call => do
  match (← call.options).rest with
  | [] => fail "usage: printf format [arg ...]"
  | format :: args =>
    let ((), f) ← (fill format.toList (args.length + 1)).run { args }
    emit (String.join (f.pieces.reverse.map String.ofList))
    return f.status

end SessionHandoff.Shell
