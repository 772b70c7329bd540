import SessionHandoff.Tools.Help.Sorting
import SessionHandoff.Tools.Sorting.Key

/-!
# What is asked of sorting

The options of `sort` say which keys lines are compared by, and what is done with the lines. An
operand after a plus sign is a key, too, if it reads like one, unless the environment asks for newer
rules.
-/

set_option autoImplicit false

namespace SessionHandoff.Tools.Sorting

/-- What is asked for. -/
structure Request where
  style : Style := {}
  keys : List Key := []
  separator? : Option Char := none
  /-- Whether the order is only checked, and whether the first fault is told. -/
  check? : Option Bool := none
  merge : Bool := false
  stable : Bool := false
  unique : Bool := false
  zeros : Bool := false
  output? : Option String := none
  /-- The files, the latest first. -/
  names : List String := []
  /-- The file that holds the names of the others. -/
  list? : Option String := none
  /-- The file that holds what decides an order by chance. -/
  source? : Option String := none
  /-- The program that makes files smaller for a while. -/
  squeezer? : Option String := none
  /-- How many workers there are at once. -/
  workers : Nat := 1
  /-- Whether the order is explained. -/
  explains : Bool := false

/-- The options. -/
def options : OptionTable where
  letters := "bcCdfghimMnrRsuVz".toList.map (fun c => (c, Takes.nothing)) ++
    "koStTy".toList.map fun c => (c, Takes.value)
  words :=
    [⟨"ignore-leading-blanks", .nothing, "b"⟩, ⟨"check", .perhaps "c", "check"⟩,
      ⟨"compress-program", .value, "compress-program"⟩, ⟨"dictionary-order", .nothing, "d"⟩,
      ⟨"ignore-case", .nothing, "f"⟩, ⟨"general-numeric-sort", .nothing, "g"⟩,
      ⟨"ignore-nonprinting", .nothing, "i"⟩, ⟨"key", .value, "k"⟩, ⟨"merge", .nothing, "m"⟩,
      ⟨"month-sort", .nothing, "M"⟩, ⟨"numeric-sort", .nothing, "n"⟩,
      ⟨"human-numeric-sort", .nothing, "h"⟩, ⟨"version-sort", .nothing, "V"⟩,
      ⟨"random-sort", .nothing, "R"⟩, ⟨"random-source", .value, "random-source"⟩,
      ⟨"sort", .value, "sort"⟩, ⟨"output", .value, "o"⟩, ⟨"reverse", .nothing, "r"⟩,
      ⟨"stable", .nothing, "s"⟩, ⟨"batch-size", .value, "batch-size"⟩,
      ⟨"buffer-size", .value, "buffer-size"⟩, ⟨"field-separator", .value, "t"⟩,
      ⟨"temporary-directory", .value, "T"⟩, ⟨"unique", .nothing, "u"⟩,
      ⟨"zero-terminated", .nothing, "z"⟩, ⟨"parallel", .value, "parallel"⟩,
      ⟨"files0-from", .value, "files0-from"⟩, ⟨"debug", .nothing, "debug"⟩]

/-- Complain about letters that exclude one another. -/
def contradict {α : Type} (letters : String) : ToolM α :=
  fail ("options '-" ++ letters ++ "' are incompatible")

/-- Ask for a check that tells the first fault or not. -/
def Request.askCheck (r : Request) (tells : Bool) : ToolM Request := do
  if r.check? = some (!tells) then contradict "cC"
  return { r with check? := some tells }

/-- An option asks for something. -/
def Request.ask (r : Request) (key value : String) : ToolM Request := do
  match key with
  | "c" => r.askCheck true
  | "C" => r.askCheck false
  | "check" =>
    let words := ["quiet", "silent", "diagnose-first"]
    match words.find? fun w => value.toList.isPrefixOf w.toList, value.isEmpty with
    | some word, false => r.askCheck (word = "diagnose-first")
    | found?, _ =>
      complain ((if found?.isSome then "ambiguous" else "invalid") ++ " argument " ++
        (← inQuotes value) ++ " for " ++ (← inQuotes "--check"))
      say ("Valid arguments are:\n  - " ++ (← inQuotes "quiet") ++ ", " ++
        (← inQuotes "silent") ++ "\n  - " ++ (← inQuotes "diagnose-first") ++ "\n")
      suggestHelp 1
  | "k" => return { r with keys := r.keys ++ [← readKey value] }
  | "m" => return { r with merge := true }
  | "o" =>
    if r.output?.any (· != value) then fail "multiple output files specified"
    return { r with output? := some value }
  | "s" => return { r with stable := true }
  | "S" =>
    checkSize "-S" value
    return r
  | "buffer-size" =>
    checkSize "--buffer-size" value
    return r
  | "t" =>
    let separator ← match value.toList with
      | [] => fail "empty tab"
      | [c] => pure c
      | ['\\', '0'] => pure (Char.ofNat 0)
      | _ => fail ("multi-character tab " ++ (← inQuotes value))
    if r.separator?.any (· != separator) then fail "incompatible tabs"
    return { r with separator? := some separator }
  | "u" => return { r with unique := true }
  | "z" => return { r with zeros := true }
  | "sort" =>
    let letter ← choose "--sort" [("general-numeric", 'g'), ("human-numeric", 'h'),
      ("month", 'M'), ("numeric", 'n'), ("random", 'R'), ("version", 'V')] value
    return { r with style := (r.style.with? .both letter).getD r.style }
  | "files0-from" => return { r with list? := some value }
  | "random-source" =>
    if r.source?.any (· != value) then fail "multiple random sources specified"
    return { r with source? := some value }
  | "compress-program" =>
    if r.squeezer?.any (· != value) then fail "multiple compress programs specified"
    return { r with squeezer? := some value }
  | "debug" => return { r with explains := true }
  | "batch-size" =>
    checkBatch "--batch-size" value
    return r
  | "parallel" => return { r with workers := ← readWorkers "--parallel" value }
  | _ =>
    return { r with style := ((key.toList.head?.bind (r.style.with? .both ·)).getD r.style) }

/-- Whether an argument is a number behind a dash. -/
def isOldStop (arg : String) : Bool :=
  match arg.toList with
  | '-' :: c :: _ => c.isDigit
  | _ => false

/-- The versions of the rules for arguments under which keys are no operands. -/
def isModern (version : String) : Bool :=
  match Amount.read? version.toList with
  | some a => a.rest.isEmpty && 200112 ≤ a.value && a.value < 200809
  | none => false

/-- How operands are read. -/
structure Reading where
  /-- Whether options end at the first operand. -/
  strict : Bool
  /-- Whether an operand may be a key even without one that ends it. -/
  keys : Bool

/-- Whether the next argument is an option for the output, which may follow operands even where
options end at the first of them. -/
def Request.isOutputNext (r : Request) : List String → Bool
  | arg :: rest =>
    r.check?.isNone && (match arg.toList with
      | ['-', 'o'] => !rest.isEmpty
      | '-' :: 'o' :: _ => true
      | _ => false)
  | [] => false

/-- Read the options that stand in one argument or two. A word behind the letter `y` that is no
number is read again. -/
def Request.askAll (r : Request) (args rest : List String) :
    List GivenOption → ToolM (Request × List String)
  | [] => return (r, rest)
  | .wrong reason :: _ => misuse reason
  | .option "y" value :: _ =>
    if args.length = rest.length + 2 && !value.toList.all Char.isDigit then
      return (r, value :: rest)
    else return (r, rest)
  | .option key value :: more => do
    (⟨"sort", Help.sorting⟩ : Help.About).answer key
    Request.askAll (← r.ask key value) args rest more

/-- Read arguments, in so many steps at most. -/
def readRequest (h : Reading) : Nat → Request → List String → ToolM Request
  | 0, r, _ => return r
  | fuel + 1, r, args => do
    if h.strict && !r.names.isEmpty && !(h.keys && r.isOutputNext args) then
      return { r with names := args.reverse ++ r.names }
    match options.explained.step args with
    | .done operands => return { r with names := operands.reverse ++ r.names }
    | .options given rest =>
      let (r, rest) ← r.askAll args rest given
      readRequest h fuel r rest
    | .operand arg rest =>
      let stop? := rest.head?.filter isOldStop
      let isMarked := arg.startsWith "+"
      let keys := h.keys || isMarked && stop?.isSome && !h.strict
      let key? ← if keys && isMarked then readOldKey arg stop? else pure none
      match key? with
      | some key =>
        readRequest { h with keys } fuel { r with keys := r.keys ++ [key] }
          (if stop?.isSome then rest.drop 1 else rest)
      | none => readRequest { h with keys } fuel { r with names := arg :: r.names } rest

/-- Read the arguments of the tool. -/
def readArguments : ToolM Request := do
  let strict := (← setting? "POSIXLY_CORRECT").isSome
  let keys := !isModern ((← setting? "_POSIX2_VERSION").getD "")
  let args := (← get).process.args
  readRequest ⟨strict, keys⟩ (2 * args.length + 1) {} args

/-! ## Order -/

/-- The keys with the style that holds for all where they have none of their own. -/
def Request.allKeys (r : Request) : List Key :=
  if r.keys.isEmpty then if r.style.isPlain then [] else [{ style := r.style }]
  else r.keys.map fun k =>
    if k.style.isPlain && !k.style.reverse then { k with style := r.style } else k

/-- The order of lines. -/
def Request.order (r : Request) (chance : Chance) (a b : List Char) : Ordering :=
  let keys := r.allKeys
  let o := keys.foldl (fun o k => o.then (k.order chance r.separator? a b)) .eq
  if !keys.isEmpty && (r.unique || r.stable) then o
  else
    let whole := compareOctets a b
    o.then (if r.style.reverse then whole.swap else whole)

/-- The lines without those that are equal to the one before. -/
def Request.distinct (r : Request) (chance : Chance) (lines : List (List Char)) :
    List (List Char) :=
  let step (kept : List (List Char)) (line : List Char) : List (List Char) :=
    match kept with
    | last :: _ => if r.order chance last line = .eq then kept else line :: kept
    | [] => [line]
  if r.unique then (lines.foldl step []).reverse else lines

/-- The lines in order. -/
def Request.sorted (r : Request) (chance : Chance) (lines : List (List Char)) : List (List Char) :=
  r.distinct chance (lines.mergeSort fun a b => r.order chance a b != .gt)

/-- Merge files: the least of the first lines comes next. -/
def Request.merged (r : Request) (chance : Chance) (files : List (List (List Char))) :
    List (List Char) :=
  r.distinct chance (files.foldl (List.merge · · fun a b => r.order chance a b != .gt) [])

/-- The number and text of the first line that is not in order. -/
def Request.firstFault? (r : Request) (chance : Chance) :
    Nat → List (List Char) → Option (Nat × List Char)
  | n, a :: b :: rest =>
    let o := r.order chance a b
    if o = .gt || r.unique && o = .eq then some (n + 1, b)
    else r.firstFault? chance (n + 1) (b :: rest)
  | _, _ => none

end SessionHandoff.Tools.Sorting
