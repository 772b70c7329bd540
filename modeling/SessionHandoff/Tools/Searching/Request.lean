import SessionHandoff.Text.Digits
import SessionHandoff.Tools.Help.Searching
import SessionHandoff.Tools.Searching.Palette
import SessionHandoff.Tools.Work

/-!
# What a search is asked for

Options say in which dialect expressions are written, which lines are selected, which files are
searched and what is written of them. Of options that contradict one another the last one counts,
but there is only one dialect.
-/

set_option autoImplicit false

namespace SessionHandoff.Tools.Searching

/-- How expressions are written. -/
inductive Dialect where
  | basic | extended | fixed | perl
deriving DecidableEq

/-- Which names are written instead of lines. -/
inductive Listing where
  | nothing | matching | others
deriving DecidableEq

/-- What to do with files that hold no text. -/
inductive Binary where
  | mention | text | skip
deriving DecidableEq

/-- What to do with folders. -/
inductive Folders where
  | read | enter | skip
deriving DecidableEq

/-- The text of an expression, and where it was read if it was in a file. -/
structure Source where
  text : List Char
  place : String := ""

/-- A pattern for the names of files that are searched, or of those that are not. -/
structure FileRule where
  includes : Bool
  pattern : List Char

/-- What is asked for. -/
structure Request where
  dialect? : Option Dialect := none
  sources? : Option (List Source) := none
  folds : Bool := false
  invert : Bool := false
  words : Bool := false
  lines : Bool := false
  onlyParts : Bool := false
  count : Bool := false
  quiet : Bool := false
  listing : Listing := .nothing
  most? : Option Nat := none
  /-- Whether the bound on selected lines is below zero. It bounds nothing, but a line that is
  selected for not matching is neither written nor counted. -/
  belowZero : Bool := false
  before? : Option Nat := none
  after? : Option Nat := none
  /-- For both when there is no other number. -/
  around? : Option Nat := none
  separator? : Option String := some "--"
  names? : Option Bool := none
  numbers : Bool := false
  offsets : Bool := false
  /-- Whether what stands before a line is as wide as a tab stop. -/
  aligned : Bool := false
  silent : Bool := false
  binary : Binary := .mention
  zeros : Bool := false
  zeroNames : Bool := false
  folders : Folders := .read
  /-- Whether devices are read. Where nothing is said only those that are named are. -/
  devices? : Option Bool := none
  /-- Patterns for the names of files, and for those of folders. -/
  fileRules : List FileRule := []
  folderRules : List FileRule := []
  colors : Bool := false
  label : String := "(standard input)"
  /-- Whether the version is asked for, and whether help is. -/
  version : Bool := false
  help : Bool := false
  /-- The digits of an option that is a number. -/
  digits : List Char := []

/-- The options. -/
def options : OptionTable where
  letters := "0123456789EFGHILPRTUVZabchilnoqrsuvwxyz".toList.map (fun c => (c, Takes.nothing)) ++
    "ABCDXdefm".toList.map fun c => (c, Takes.value)
  words :=
    [⟨"basic-regexp", .nothing, "G"⟩, ⟨"extended-regexp", .nothing, "E"⟩,
      ⟨"fixed-regexp", .nothing, "F"⟩, ⟨"fixed-strings", .nothing, "F"⟩,
      ⟨"perl-regexp", .nothing, "P"⟩, ⟨"after-context", .value, "A"⟩,
      ⟨"before-context", .value, "B"⟩, ⟨"binary-files", .value, "binary-files"⟩,
      ⟨"binary", .nothing, "U"⟩, ⟨"byte-offset", .nothing, "b"⟩, ⟨"context", .value, "C"⟩,
      ⟨"color", .perhaps "colors", "color"⟩, ⟨"colour", .perhaps "colors", "color"⟩,
      ⟨"count", .nothing, "c"⟩,
      ⟨"devices", .value, "D"⟩, ⟨"directories", .value, "d"⟩, ⟨"exclude", .value, "exclude"⟩,
      ⟨"exclude-from", .value, "exclude-from"⟩, ⟨"exclude-dir", .value, "exclude-dir"⟩,
      ⟨"file", .value, "f"⟩, ⟨"files-with-matches", .nothing, "l"⟩,
      ⟨"files-without-match", .nothing, "L"⟩, ⟨"group-separator", .value, "group-separator"⟩,
      ⟨"help", .nothing, "help"⟩, ⟨"include", .value, "include"⟩,
      ⟨"ignore-case", .nothing, "i"⟩, ⟨"no-ignore-case", .nothing, "no-ignore-case"⟩,
      ⟨"initial-tab", .nothing, "T"⟩, ⟨"label", .value, "label"⟩,
      ⟨"line-buffered", .nothing, "U"⟩, ⟨"line-number", .nothing, "n"⟩,
      ⟨"line-regexp", .nothing, "x"⟩, ⟨"max-count", .value, "m"⟩,
      ⟨"no-filename", .nothing, "h"⟩, ⟨"no-group-separator", .nothing, "no-group-separator"⟩,
      ⟨"no-messages", .nothing, "s"⟩, ⟨"null", .nothing, "Z"⟩, ⟨"null-data", .nothing, "z"⟩,
      ⟨"only-matching", .nothing, "o"⟩, ⟨"quiet", .nothing, "q"⟩, ⟨"recursive", .nothing, "r"⟩,
      ⟨"dereference-recursive", .nothing, "R"⟩, ⟨"regexp", .value, "e"⟩,
      ⟨"invert-match", .nothing, "v"⟩, ⟨"silent", .nothing, "q"⟩, ⟨"text", .nothing, "a"⟩,
      ⟨"unix-byte-offsets", .nothing, "u"⟩, ⟨"version", .nothing, "V"⟩,
      ⟨"with-filename", .nothing, "H"⟩, ⟨"word-regexp", .nothing, "w"⟩]

/-- The tool's name without its folder. -/
def ownName : ToolM String := do
  let name := (← get).process.name
  return String.ofList ((name.toList.splitOn '/').getLastD [])

/-- Say how the tool is called and end with a code. -/
def explainUse {α : Type} (code : Nat) : ToolM α := do
  let name ← ownName
  say ("Usage: " ++ name ++ " [OPTION]... PATTERNS [FILE]...\n")
  say ("Try '" ++ name ++ " --help' for more information.\n")
  leave code

/-- The number that a text says. -/
def number? (text : String) : Option Int :=
  let body := text.toList.dropWhile fun c => c = ' ' || (9 ≤ c.toNat && c.toNat ≤ 13)
  match body with
  | '-' :: ds => (Text.natural? ds).map fun n => -(n : Int)
  | '+' :: ds => (Text.natural? ds).map Int.ofNat
  | ds => (Text.natural? ds).map Int.ofNat

/-- The number of lines that the value of an option says. -/
def readContext (value : String) : ToolM Nat :=
  match number? value with
  | some (.ofNat n) => return n
  | _ => fail (value ++ ": invalid context length argument")

namespace Request

/-- Ask for a dialect. -/
def speak (r : Request) (d : Dialect) : ToolM Request := do
  if r.dialect?.any (· ≠ d) then fail "conflicting matchers specified"
  return { r with dialect? := some d }

/-- Add expressions. -/
def addSources (r : Request) (new : List Source) : Request :=
  { r with sources? := some (r.sources?.getD [] ++ new) }

end Request

/-- The expressions in a text, one a line. -/
def sourcesOf (text : List Char) : List Source :=
  (text.splitOn '\n').map fun text => { text }

/-- Read a file that an option names, or the standard input. -/
def readNamed (name : String) : ToolM (List Char) := do
  let input? ← if name = "-" then readInput else (do
    match ← openInput name with
    | .ok i => readOpen i
    | .error e => return .error e)
  match input? with
  | .error e => fail (name ++ ": " ++ e.description)
  | .ok text => return text

namespace Request

/-- Read expressions from a file. -/
def addFile (r : Request) (name : String) : ToolM Request := do
  match ← readNamed name with
  | [] => return r.addSources []
  | text =>
    let text := if text.getLast? = some '\n' then text.dropLast else text
    return r.addSources ((sourcesOf text).zipIdx.map fun (s, i) =>
      { s with place := name ++ ":" ++ Text.decimalString (i + 1) ++ ": " })

/-- Read patterns for names of files that are not searched: one a line, without the blanks at its
end. -/
def addRules (r : Request) (name : String) : ToolM Request := do
  let lines := ((← readNamed name).splitOn '\n').map fun line =>
    (line.reverse.dropWhile fun c => c = ' ' || (9 ≤ c.toNat && c.toNat ≤ 13)).reverse
  return { r with
    fileRules := r.fileRules ++ (lines.filter (!·.isEmpty)).map fun line => ⟨false, line⟩ }

/-- Add a pattern for names of files. -/
def addRule (r : Request) (includes : Bool) (pattern : String) : Request :=
  { r with fileRules := r.fileRules ++ [⟨includes, pattern.toList⟩] }

/-- Add a pattern for names of folders that are not searched. -/
def addFolderRule (r : Request) (pattern : String) : Request :=
  let text := pattern.toList
  let kept := (text.reverse.dropWhile (· = '/')).reverse
  let kept := if kept.isEmpty then text.take 1 else kept
  { r with folderRules := r.folderRules ++ [⟨false, kept⟩] }

/-- Ask for colors. -/
def color (r : Request) (value : String) : Request :=
  let word := value.map Char.toLower
  if ["always", "yes", "force"].contains word then { r with colors := true }
  else if ["never", "no", "none", "auto", "tty", "if-tty"].contains word then
    { r with colors := false }
  else { r with help := true }

/-- Say what to do with folders. -/
def treatFolders (r : Request) (value : String) : ToolM Request := do
  let choices := [("read", Folders.read), ("recurse", .enter), ("skip", .skip)]
  match choices.filter fun c => value.toList.isPrefixOf c.1.toList with
  | [(_, folders)] => return { r with folders }
  | found =>
    let how := if found.isEmpty then "invalid" else "ambiguous"
    complain (how ++ " argument " ++ (← inQuotes value) ++ " for " ++
      (← inQuotes "--directories"))
    let lines ← choices.mapM fun c => return "  - " ++ (← inQuotes c.1) ++ "\n"
    say ("Valid arguments are:\n" ++ String.join lines)
    explainUse 1

/-- The dialects that have names of their own. -/
def dialects : List (String × Dialect) :=
  [("grep", Dialect.basic), ("egrep", .extended), ("fgrep", .fixed), ("awk", .extended),
    ("gawk", .extended), ("posixawk", .extended), ("perl", .perl)]

/-- An option asks for something. -/
def ask (r : Request) (key value : String) : ToolM Request := do
  let isDigit := key.toList.all Char.isDigit
  let r := if isDigit then r else { r with digits := [] }
  match key with
  | "A" => return { r with after? := some (← readContext value) }
  | "B" => return { r with before? := some (← readContext value) }
  | "C" => return { r with around? := some (← readContext value) }
  | "D" =>
    if value = "read" then return { r with devices? := some true }
    if value = "skip" then return { r with devices? := some false }
    fail "unknown devices method"
  | "E" => r.speak .extended
  | "F" => r.speak .fixed
  | "G" => r.speak .basic
  | "P" => r.speak .perl
  | "X" =>
    match dialects.lookup value with
    | some d => r.speak d
    | none => fail ("invalid matcher " ++ value)
  | "H" => return { r with names? := some true }
  | "h" => return { r with names? := some false }
  | "I" => return { r with binary := .skip }
  | "a" => return { r with binary := .text }
  | "binary-files" =>
    match [("binary", Binary.mention), ("text", .text), ("without-match", .skip)].lookup value with
    | some binary => return { r with binary }
    | none => fail "unknown binary-files type"
  | "L" => return { r with listing := .others }
  | "l" => return { r with listing := .matching }
  | "T" => return { r with aligned := true }
  | "V" => return { r with version := true }
  | "Z" => return { r with zeroNames := true }
  | "b" => return { r with offsets := true }
  | "c" => return { r with count := true }
  | "color" => return r.color value
  | "colors" => return r.color "auto"
  | "d" => r.treatFolders value
  | "r" | "R" => return { r with folders := .enter }
  | "e" => return r.addSources (sourcesOf value.toList)
  | "exclude" => return r.addRule false value
  | "exclude-dir" => return r.addFolderRule value
  | "exclude-from" => r.addRules value
  | "f" => r.addFile value
  | "help" => return { r with help := true }
  | "i" | "y" => return { r with folds := true }
  | "include" => return r.addRule true value
  | "no-ignore-case" => return { r with folds := false }
  | "m" =>
    match number? value with
    | some (.ofNat n) => return { r with most? := some n, belowZero := false }
    | some _ => return { r with most? := none, belowZero := true }
    | none => fail "invalid max count"
  | "n" => return { r with numbers := true }
  | "o" => return { r with onlyParts := true }
  | "q" =>
    modify fun w => { w with broken? := some 0 }
    return { r with quiet := true }
  | "s" => return { r with silent := true }
  | "u" =>
    complain "warning: --unix-byte-offsets (-u) is obsolete"
    return r
  | "v" => return { r with invert := true }
  | "w" => return { r with words := true }
  | "x" => return { r with lines := true }
  | "z" => return { r with zeros := true }
  | "group-separator" => return { r with separator? := some value }
  | "no-group-separator" => return { r with separator? := none }
  | "label" => return { r with label := value }
  | _ =>
    if isDigit then
      let digits := r.digits ++ key.toList
      return { r with digits, around? := Text.natural? digits }
    return r

end Request

/-- Read arguments. A number that is an option ends with its argument. -/
def readOptions (strict : Bool) : Nat → Request → List String → List String →
    ToolM (Request × List String)
  | 0, r, names, _ => return (r, names.reverse)
  | fuel + 1, r, names, args => do
    match options.step args with
    | .done operands => return (r, names.reverse ++ operands)
    | .operand arg rest =>
      if strict then return (r, names.reverse ++ arg :: rest)
      readOptions strict fuel r (arg :: names) rest
    | .options given rest =>
      let mut r := { r with digits := [] }
      for o in given do
        match o with
        | .option key value => r ← r.ask key value
        | .wrong reason =>
          complain reason
          explainUse (← get).failure
      readOptions strict fuel r names rest

/-- Expressions without those whose text was given before. -/
def distinctSources (sources : List Source) : List Source :=
  (sources.foldl (fun (kept : List Source) s =>
    if kept.any (·.text = s.text) then kept else s :: kept) []).reverse

/-- Read what is asked for, and the names of the files. Without any expression the empty one is
searched for and the selection is turned around. -/
def readRequest : ToolM (Request × List String) := do
  let strict := (← setting? "POSIXLY_CORRECT").isSome
  let args := (← get).process.args
  let (r, operands) ← readOptions strict (args.length + 1) {} [] args
  if r.version then
    putString (Help.version "grep" "GNU grep" "3.11")
    leave 0
  if r.help then
    putString (Help.searching (← ownName))
    leave 0
  let (r, names) ← match r.sources?, operands with
    | some _, names => pure (r, names)
    | none, first :: names => pure (r.addSources (sourcesOf first.toList), names)
    | none, [] => do explainUse (← get).failure
  let r := match r.sources?.getD [] with
    | [] => { r with
        sources? := some [{ text := [] }], invert := !r.invert, lines := false, words := false }
    | sources => { r with sources? := some (distinctSources sources) }
  return (r, names)

end SessionHandoff.Tools.Searching
