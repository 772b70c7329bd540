import SessionHandoff.Tools.Help.Counting
import SessionHandoff.Tools.NameList

/-!
# Counting

`wc` counts the lines, words, characters and octets of its files, and the columns of the longest
line. A word is what stands between blanks, as long as something in it can be printed. The columns
of all numbers are as wide as the sizes of all files together, and no narrower than seven where
something is no plain file; a single number is as wide as it is.
-/

set_option autoImplicit false

namespace SessionHandoff.Tools.Counting

open Characters (Charset)

/-- What is counted. -/
structure Counts where
  lines : Nat := 0
  words : Nat := 0
  characters : Nat := 0
  octets : Nat := 0
  longest : Nat := 0

/-- The counts of two texts, of which none goes on in the other. -/
def Counts.add (a b : Counts) : Counts :=
  ⟨a.lines + b.lines, a.words + b.words, a.characters + b.characters, a.octets + b.octets,
    max a.longest b.longest⟩

/-- Where counting stands inside a line. -/
structure Spot where
  counts : Counts := {}
  column : Nat := 0
  inWord : Bool := false

/-- The blanks that keep a line together. They separate words unless the environment asks for less
than that. -/
def joiningBlanks : List Nat := [0xA0, 0x2007, 0x202F, 0x2060]

/-- What counting depends on. -/
structure Manner where
  charset : Charset
  /-- Whether the blanks that keep a line together separate words. -/
  joiners : Bool := true

/-- Whether a code separates words. -/
def Manner.separates (m : Manner) (code : Nat) : Bool :=
  m.charset.isKind .space code || m.joiners && joiningBlanks.contains code

namespace Spot

/-- The word ends here. -/
def endWord (s : Spot) : Spot :=
  { s with
    inWord := false
    counts := { s.counts with words := s.counts.words + if s.inWord then 1 else 0 } }

/-- The columns start anew. -/
def endColumns (s : Spot) : Spot :=
  { s with column := 0, counts := { s.counts with longest := max s.counts.longest s.column } }

/-- Count the octets of a code, and the character that it is unless it is none. -/
def measure (cs : Charset) (s : Spot) (code : Nat) : Spot :=
  { s with counts := { s.counts with
    characters := s.counts.characters + if code < Characters.strayBase then 1 else 0
    octets := s.counts.octets + (cs.octetsOf code).length } }

/-- Count one code. -/
def step (m : Manner) (s : Spot) (code : Nat) : Spot :=
  let s := s.measure m.charset code
  match code with
  | 10 =>
    let s := s.endColumns.endWord
    { s with counts := { s.counts with lines := s.counts.lines + 1 } }
  | 13 | 12 => s.endColumns.endWord
  | 9 => { s.endWord with column := s.column + 8 - s.column % 8 }
  | 11 => s.endWord
  | _ =>
    if m.charset.isKind .print code then
      let s := { s with column := s.column + Characters.width code }
      if m.separates code then s.endWord else { s with inWord := true }
    else s

end Spot

/-- The counts of a text. -/
def count (m : Manner) (text : List Char) : Counts :=
  ((m.charset.codes text).foldl (Spot.step m) {}).endColumns.endWord.counts

/-! ## Numbers -/

/-- When the sum of all counts is written. -/
inductive Total where
  | auto | always | only | never
deriving DecidableEq

/-- What is asked for. -/
structure Request where
  lines : Bool := false
  words : Bool := false
  characters : Bool := false
  octets : Bool := false
  longest : Bool := false
  total : Total := .auto
  /-- The file that holds the names of the others. -/
  list? : Option String := none

namespace Request

/-- The options. -/
def options : OptionTable where
  letters := "clLmw".toList.map fun c => (c, .nothing)
  words := [⟨"bytes", .nothing, "c"⟩, ⟨"chars", .nothing, "m"⟩, ⟨"lines", .nothing, "l"⟩,
    ⟨"words", .nothing, "w"⟩, ⟨"max-line-length", .nothing, "L"⟩,
    ⟨"files0-from", .value, "files0-from"⟩, ⟨"total", .value, "total"⟩]

/-- An option asks for something. -/
def ask (r : Request) (key value : String) : ToolM Request :=
  match key with
  | "c" => return { r with octets := true }
  | "m" => return { r with characters := true }
  | "l" => return { r with lines := true }
  | "w" => return { r with words := true }
  | "L" => return { r with longest := true }
  | "files0-from" => return { r with list? := some value }
  | _ => do
    let total ← choose "--total"
      [("auto", .auto), ("always", .always), ("only", .only), ("never", .never)] value
    return { r with total }

/-- The numbers that are asked for. -/
def numbers (r : Request) (c : Counts) : List Nat :=
  (if r.lines then [c.lines] else []) ++ (if r.words then [c.words] else []) ++
    (if r.characters then [c.characters] else []) ++ (if r.octets then [c.octets] else []) ++
    (if r.longest then [c.longest] else [])

/-- The request for what is counted unless something is asked for. -/
def filled (r : Request) : Request :=
  if (r.numbers {}).isEmpty then { r with lines := true, words := true, octets := true } else r

end Request

/-- A number in columns. -/
def column (width n : Nat) : List Char :=
  let ds := Text.decimal n
  List.replicate (width - ds.length) ' ' ++ ds

/-- Write counts with the name of what was counted. -/
def write (r : Request) (width : Nat) (c : Counts) (name : String) : ToolM Unit := do
  put ((r.numbers c).map (column width) |>.intersperse [' ']).flatten
  if !name.isEmpty then
    putString (" " ++ (← if name.contains '\n' then forShell name else pure name))
  put ['\n']
  flush

/-! ## Files -/

/-- The least width of numbers where something is no plain file. -/
def wideColumn : Nat := 7

/-- The size of what is open if it is a plain file. -/
def sizeOf? (w : World) (f : OpenFile) : Option Nat :=
  match f.endpoint with
  | .file place =>
    match w.nodes.lookup place with
    | some (.file content _) => some content.length
    | _ => some 0
  | .report _ => some 0
  | _ => none

/-- What is there under a name: nothing, something, or a plain file with its size. Without a name it
is the standard input. -/
def look (name? : Option String) : ToolM (Option (Option Nat)) := do
  let s ← get
  let opened (fd : Nat) : Option (Option Nat) :=
    ((s.process.at? fd).bind fun i => s.world.opened[i]?).map (sizeOf? s.world)
  let name := name?.getD "-"
  if name = "-" then return opened 0
  match (s.process.files s.world).find (Octets.toText name) with
  | .ok (.file content _) => return some (some content.length)
  | .ok (.report _) => return some (some 0)
  | .ok (.descriptor n) => return opened n
  | .ok _ => return some none
  | .error _ => return none

/-- The width of numbers for the files with some names. -/
def widthOf (r : Request) (names : List (Option String)) : ToolM Nat := do
  if names.isEmpty ∨ names.length = 1 ∧ (r.numbers {}).length = 1 ∨ r.total = .only then return 1
  let found := (← names.mapM look).filterMap id
  let size := (found.filterMap id).foldl (· + ·) 0
  let least := if found.all Option.isSome then 1 else wideColumn
  return max least (Text.decimal size).length

/-- Count what a name stands for. Nothing where it cannot be opened. The counts are none where it
cannot be read. -/
def countNamed (m : Manner) (name? : Option String) : ToolM (Option Counts × Bool) := do
  let shown ← forShell (name?.getD "standard input")
  let input? : Except Errno (Except Errno (List Char)) ←
    match name?.filter (· != "-") with
    | none => Except.ok <$> readInput
    | some name => do
      match ← openInput name with
      | .ok i => Except.ok <$> readOpen i
      | .error e => pure (.error e)
  match input? with
  | .error e =>
    complain (shown ++ ": " ++ e.description)
    return (none, false)
  | .ok (.error e) =>
    complain (shown ++ ": " ++ e.description)
    return (some {}, false)
  | .ok (.ok text) => return (some (count m text), true)

/-- The names of the files, and whether they are known before the first one is counted. -/
def readNames (r : Request) (operands : List String) : ToolM (List (Option String) × Bool) := do
  match r.list?, operands with
  | some _, operand :: _ => refuseOperand operand
  | some list, [] =>
    match ← readNameList list with
    | .ok names => return (names.names.map some, names.isPlain)
    | .error (.notOpened e) =>
      fail ("cannot open " ++ (← inShellQuotes list) ++ " for reading: " ++ e.description)
    | .error (.notRead e) => fail ((← forShell list) ++ ": read error: " ++ e.description)
  | none, [] => return ([none], true)
  | none, names => return (names.map some, true)

/-- The tool. -/
def program : Program := tool 1 do
  let (r, operands) ←
    readArguments ⟨"wc", Help.counting⟩ Request.options ({} : Request) Request.ask
  let r := r.filled
  let m : Manner := ⟨(← get).charset, (← setting? "POSIXLY_CORRECT").isNone⟩
  let (names, known) ← readNames r operands
  let width ← widthOf r (if known then names else [])
  let mut good := true
  let mut total : Counts := {}
  for (name, i) in names.zipIdx do
    match ← nameFault? r.list? (name.getD " ") (i + 1) with
    | some fault =>
      complain fault
      good := false
    | none =>
      let (counts?, fine) ← countNamed m name
      good := good && fine
      if let some counts := counts? then
        total := total.add counts
        unless r.total = .only do write r width counts (name.getD "")
  let wanted : Bool := match r.total with
    | .auto => decide (names.length > 1)
    | .always | .only => true
    | .never => false
  if wanted then write r width total (if r.total = .only then "" else "total")
  let usesInput := r.list?.isNone && (operands.contains "-" || operands.isEmpty)
  if usesInput && ((← get).process.at? 0).isNone then
    fail ("-: " ++ Errno.badDescriptor.description)
  return if good then 0 else 1

end SessionHandoff.Tools.Counting
