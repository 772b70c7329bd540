import SessionHandoff.Tools.Help.Concatenation
import SessionHandoff.Tools.Work

/-!
# Joining files

`cat` writes its files one after the other. On request lines are numbered, empty lines are written
once, ends of lines are marked, and octets that cannot be shown are written as others. All files
together are one text for this, and nothing waits for the end.
-/

set_option autoImplicit false

namespace SessionHandoff.Tools.Concatenation

/-- What is asked for. -/
structure Style where
  number : Bool := false
  numberFilled : Bool := false
  squeeze : Bool := false
  ends : Bool := false
  hidden : Bool := false
  tabs : Bool := false

/-- Whether the text is written as it is. -/
def Style.isPlain (s : Style) : Bool :=
  !(s.number || s.numberFilled || s.squeeze || s.ends || s.hidden || s.tabs)

/-- The options. -/
def options : OptionTable :=
  .simple "benstuvAET"
    [("number-nonblank", 'b'), ("number", 'n'), ("squeeze-blank", 's'), ("show-nonprinting", 'v'),
      ("show-ends", 'E'), ("show-tabs", 'T'), ("show-all", 'A')]

/-- An option asks for something. -/
def Style.ask (s : Style) : String → Style
  | "b" => { s with number := true, numberFilled := true }
  | "e" => { s with ends := true, hidden := true }
  | "n" => { s with number := true }
  | "s" => { s with squeeze := true }
  | "t" => { s with tabs := true, hidden := true }
  | "v" => { s with hidden := true }
  | "A" => { s with ends := true, hidden := true, tabs := true }
  | "E" => { s with ends := true }
  | "T" => { s with tabs := true }
  | _ => s

/-! ## Text -/

/-- Where the text stands. -/
inductive Spot where
  /-- Inside a line. -/
  | within
  /-- At the start of a line that follows another. -/
  | start
  /-- After an empty line, or at the start of all. -/
  | empty
  /-- After more than one empty line. -/
  | empties
deriving DecidableEq

/-- What was written so far. -/
structure Progress where
  /-- At the start of all, as after a line. -/
  spot : Spot := .start
  line : Nat := 0
  /-- Whether a carriage return waits for what follows it. -/
  held : Bool := false

/-- The number of a line in front of it. -/
def numberText (n : Nat) : List Char :=
  let ds := Text.decimal n
  List.replicate (6 - ds.length) ' ' ++ ds ++ ['\t']

/-- An octet written with octets that can be shown. -/
def shown (s : Style) (c : Char) : List Char :=
  let n := c.toNat
  let low (n : Nat) : List Char :=
    if n < 32 then ['^', Char.ofNat (n + 64)] else if n = 127 then ['^', '?'] else [Char.ofNat n]
  if c = '\t' then if s.tabs then ['^', 'I'] else ['\t']
  else if !s.hidden then [c]
  else if n < 128 then low n
  else 'M' :: '-' :: low (n - 128)

/-- Write one octet. -/
def step (s : Style) (p : Progress) (c : Char) : List Char × Progress :=
  let numbered (p : Progress) : List Char × Progress :=
    if s.number then (numberText (p.line + 1), { p with line := p.line + 1 }) else ([], p)
  if c = '\n' then
    let spot : Spot := match p.spot with
      | .within => .start
      | .start => .empty
      | .empty | .empties => .empties
    if spot = .empties && s.squeeze then ([], { p with spot })
    else
      let (before, p) := if spot ≠ .start && !s.numberFilled then numbered p else ([], p)
      let mark : List Char := if s.ends then (if p.held then ['^', 'M', '$'] else ['$']) else []
      (before ++ mark ++ ['\n'], { p with spot, held := false })
  else
    let (before, p) := if p.spot = .within then ([], p) else numbered p
    let released : List Char := if p.held then ['\r'] else []
    let p := { p with spot := .within, held := false }
    if c = '\r' && s.ends && !s.hidden then (released ++ before, { p with held := true })
    else (released ++ before ++ shown s c, p)

/-- Write a text. -/
def convert (s : Style) (p : Progress) (text : List Char) : List Char × Progress :=
  let (pieces, p) := text.foldl (fun (acc : List (List Char) × Progress) c =>
    let (out, p) := step s acc.2 c
    (out :: acc.1, p)) ([], p)
  (pieces.reverse.flatten, p)

/-! ## The tool -/

/-- Write a text at once, unless it is empty. A failure ends the tool. -/
def write (text : List Char) : ToolM Unit := do
  if text.isEmpty then return
  put text
  match ← writeWaiting with
  | .ok () => return
  | .error e => fail ("write error: " ++ e.description)

/-- Whether reading something open would read what is being written: it is the same file, and not
yet read up to where the next octet is written. -/
def meetsOutput (i : Nat) : ToolM Bool := do
  let s ← get
  match s.world.opened[i]?, (s.process.at? 1).bind fun o => s.world.opened[o]? with
  | some input, some output =>
    match input.endpoint, output.endpoint with
    | .file a, .file b =>
      let reached := match output.appends, s.world.nodes.lookup b with
        | true, some (.file content _) => content.length
        | _, _ => output.position
      return a == b && input.position < reached
    | _, _ => return false
  | _, _ => return false

/-- Join what is open to the text. Returns whether that could be done. -/
def join (style : Style) (name : String) (i : Nat) : StateT Progress ToolM Bool := do
  if ← meetsOutput i then
    complain ((← forShell name) ++ ": input file is output file")
    return false
  match ← readOpen i with
  | .error e =>
    complain ((← forShell name) ++ ": " ++ e.description)
    return false
  | .ok text =>
    if style.isPlain then write text
    else
      let (out, p) := convert style (← get) text
      set p
      write out
    return true

/-- The tool. -/
def program : Program := tool 1 do
  let (style, operands) ←
    readArguments ⟨"cat", Help.concatenation⟩ options ({} : Style) fun s key _ => return s.ask key
  let process := (← get).process
  if (process.at? 1).isNone then
    fail ("standard output: " ++ Errno.badDescriptor.description)
  let names := if operands.isEmpty then ["-"] else operands
  let act : StateT Progress ToolM Bool := do
    let mut good := true
    for name in names do
      let open? ← if name = "-" then pure (match process.at? 0 with
          | some i => Except.ok i
          | none => Except.error Errno.badDescriptor)
        else openInput name
      match open? with
      | .error e =>
        complain ((← forShell name) ++ ": " ++ e.description)
        good := false
      | .ok i =>
        unless ← join style name i do good := false
    return good
  let (good, p) ← act.run {}
  if p.held then write ['\r']
  if names.contains "-" && (process.at? 0).isNone then
    fail ("closing standard input: " ++ Errno.badDescriptor.description)
  return if good then 0 else 1

end SessionHandoff.Tools.Concatenation
