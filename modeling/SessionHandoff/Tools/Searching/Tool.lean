import SessionHandoff.Tools.Searching.Output
import SessionHandoff.Tools.Searching.Walk

/-!
# Searching lines

`grep` writes the lines of its files in which one of some expressions matches, or what matches, or
how many lines there are, or the names of the files, or nothing; lines around them may be written
too. Of a file that holds the octet zero, which ends lines there, nothing is written. The status
says whether anything matched, unless something went wrong.
-/

set_option autoImplicit false

namespace SessionHandoff.Tools.Searching

/-- What was done with a file. -/
structure Progress where
  /-- How many lines were selected. -/
  selected : Nat := 0
  /-- The lines that were not written since the last one that was, the latest first. -/
  held : List Entry := []
  /-- How many lines are written after the last one that was selected. -/
  pending : Nat := 0
  /-- Whether anything of this file was written. -/
  begun : Bool := false
  /-- Where the last selected line ends. -/
  reached : Nat := 0
  /-- Whether the line before was selected. -/
  afterSelected : Bool := false
  /-- Whether something could not be written as it is no text. -/
  withheld : Bool := false
  /-- Whether lines of this file or one before were selected. -/
  used : Bool := false

namespace Search

/-- The number of lines written before a selected one. -/
def before (s : Search) : Nat :=
  (s.request.before?.orElse fun _ => s.request.around?).getD 0

/-- The number of lines written after a selected one. -/
def after (s : Search) : Nat :=
  (s.request.after?.orElse fun _ => s.request.around?).getD 0

/-- Whether lines around others are asked for. -/
def hasContext (s : Search) : Bool :=
  s.request.before?.isSome || s.request.after?.isSome || s.request.around?.isSome

/-- Whether lines are counted or looked for and none is written. -/
def isQuiet (s : Search) : Bool :=
  s.request.quiet || s.unseen || s.request.count || s.request.listing ≠ .nothing

/-- Write a line, given the held lines that come after it. Returns whether that could be done. -/
def writeLine (s : Search) (file : Label) (mark : Char) (e : Entry) (later : List Entry) :
    StateT Progress ToolM Bool := do
  let written ← s.write file mark e
  modify fun p => if written then { p with held := later, begun := true }
    else { p with withheld := true }
  return written

/-- Write held lines that follow a selected one, the earliest first, as many as are to be. -/
def writePending (s : Search) (file : Label) : List Entry → StateT Progress ToolM Unit
  | [] => return
  | e :: rest => do
    if (← get).pending = 0 then return
    modify fun p => { p with begun := true }
    if ← s.writeLine file '-' e rest.reverse then
      modify fun p => { p with pending := p.pending - 1 }
      s.writePending file rest
    else modify fun p => { p with pending := 0 }

/-- Write held lines before a selected one, the earliest first. -/
def writeBefore (s : Search) (file : Label) : List Entry → StateT Progress ToolM Unit
  | [] => return
  | e :: rest => do
    let _ ← s.writeLine file '-' e rest.reverse
    s.writeBefore file rest

/-- Whether selected lines are neither written nor counted. -/
def passesOverSelected (s : Search) : Bool :=
  s.request.belowZero && s.request.invert && !s.request.quiet

/-- Write a selected line with the lines before it. Of selected lines that follow one another by
not matching only the first has any. -/
def writeSelected (s : Search) (file : Label) (e : Entry) : StateT Progress ToolM Unit := do
  unless s.request.invert && (← get).afterSelected do
    s.writePending file (← get).held.reverse
    let p ← get
    if s.hasContext && p.used && (!p.begun || s.before < p.held.length) then
      if let some separator := s.request.separator? then
        put (s.paint Palette.separator separator.toList ++ ['\n'])
    s.writeBefore file (p.held.take s.before).reverse
  let written ← if s.passesOverSelected then pure false else s.writeLine file ':' e []
  unless written do modify fun p => { p with held := e :: p.held }

/-- Go on with a line. Returns whether there is more to do. -/
def step (s : Search) (file : Label) (quiet first : Bool) (e : Entry) :
    StateT Progress ToolM Bool := do
  let p ← get
  if s.request.most?.any (· ≤ p.selected) then
    set { p with held := e :: p.held }
    return p.pending ≠ 0
  if ← s.selects file.name e.text then
    if !quiet then s.writeSelected file e
    modify fun p => { p with
      selected := if s.passesOverSelected then p.selected else p.selected + 1
      pending := if quiet then 0 else s.after
      reached := e.offset + e.text.length + 1
      afterSelected := true
      used := true }
    return !first
  else
    set { p with held := e :: p.held, afterSelected := false }
    return true

/-- Go through lines until nothing is left to do. -/
def run (s : Search) (file : Label) (quiet first : Bool) :
    List Entry → StateT Progress ToolM Unit
  | [] => return
  | e :: rest => do
    if ← s.step file quiet first e then s.run file quiet first rest

/-- Complain about a file. -/
def refuse (s : Search) (name : String) (reason : String) : ToolM Unit := do
  unless s.request.silent do complain (name ++ ": " ++ reason)

/-- Whether what is open is the file that is written, so that the search would go on forever. -/
def feedsItself (s : Search) (i : Nat) : ToolM Bool := do
  let w ← get
  if s.isQuiet || s.request.most?.any (· ≤ 1) then return false
  match w.world.opened[i]?, (w.process.at? 1).bind fun o => w.world.opened[o]? with
  | some input, some output =>
    match input.endpoint, output.endpoint with
    | .file a, .file b => return a == b
    | _, _ => return false
  | _, _ => return false

/-- What is known after files were searched. -/
structure Answer where
  /-- Whether a line was selected in any. -/
  found : Bool := false
  /-- Whether a file could not be read. -/
  failed : Bool := false
  /-- Whether lines were selected, so that others are set apart from them. -/
  used : Bool := false

/-- Searching files. -/
abbrev AnswerM := StateT Answer ToolM

/-- Note that a file could not be read. -/
def noteFailure (s : Search) (name : String) (e : Errno) : AnswerM Unit := do
  s.refuse name e.description
  modify fun a => { a with failed := true }

/-- Say what was found in a file: how many lines were selected, or that some were, as it is asked
for. -/
def sayFound (s : Search) (name : String) (selected : Nat) : ToolM Unit := do
  if s.request.count then
    put (s.nameHead name ':' ++ (Text.decimalString selected ++ "\n").toList)
  if s.request.listing ≠ .nothing && (selected > 0) == (s.request.listing = .matching) then
    put (s.nameText name ++ [if s.request.zeroNames then Char.ofNat 0 else '\n'])

/-- Whether a pipe cannot be emptied into the output that nobody sees, as that is not open to be
written. -/
def staysFull (s : Search) (i : Nat) : ToolM Bool := do
  let w ← get
  let isPipe := match w.world.opened[i]?.map OpenFile.endpoint with
    | some (.pipe _) => true
    | _ => false
  let takes := ((w.process.at? 1).bind fun o => w.world.opened[o]?).any OpenFile.writable
  return s.unseen && isPipe && !takes

/-- Search a text that was read, and say what was found. -/
def searchText (s : Search) (file : Label) (isInput : Bool) (i start : Nat) (text : List Char) :
    AnswerM Unit := do
  let zero := Char.ofNat 0
  let isBinary := !s.request.zeros && s.request.binary ≠ .text && text.contains zero
  let text := if isBinary then text.map fun c => if c = zero then '\n' else c else text
  if isBinary && s.request.binary = .skip then
    s.sayFound file.name 0
    return
  let hidden := isBinary && !s.request.count
  let quiet := s.isQuiet || hidden
  let first := s.request.quiet || s.unseen || s.request.listing ≠ .nothing || hidden
  let work : StateT Progress ToolM Unit := do
    s.run file quiet first (entriesOf s.lineEnd text)
    if !quiet then s.writePending file (← get).held.reverse
  let ((), p) ← work.run { used := (← get).used }
  let found := p.selected > 0
  if s.request.quiet && found then leave 0
  modify fun a => { a with found := a.found || found, used := p.used }
  if !s.isQuiet && (hidden && found || s.request.binary = .mention && p.withheld) then
    complain (file.name ++ ": binary file matches")
  s.sayFound file.name p.selected
  if isInput && found && s.request.most?.isNone && (← s.staysFull i) then
    s.noteFailure file.name .badDescriptor
  if isInput && !first && s.request.most?.any (· ≤ p.selected) then
    modifyThe Work fun w => { w with world := { w.world with
      opened := w.world.opened.modify i fun f =>
        match f.endpoint with
        | .file _ => { f with position := min f.position (start + p.reached) }
        | _ => f } }

/-- The width of numbers where the size of a file is unknown. -/
def widestNumber : Nat := 19

/-- The width of numbers in what is open, if heads are aligned: that of its size, or of the number
of a line more than it has octets. -/
def numberWidth (s : Search) (w : World) (i : Nat) : Nat :=
  if !s.request.aligned then 0
  else
    let size? : Option Nat := match w.opened[i]?.map OpenFile.endpoint with
      | some (.file place) =>
        match w.nodes.lookup place with
        | some (.file content _) => some content.length
        | _ => some 0
      | some (.report _) => some 0
      | _ => none
    match size? with
    | some n => (Text.decimalString (if s.request.numbers then n + 1 else n)).length
    | none => widestNumber

/-- Search what is open. What cannot be read counts as empty. -/
def searchOpen (s : Search) (name : String) (isInput : Bool) (i : Nat) : AnswerM Unit := do
  if ← s.feedsItself i then
    s.refuse name "input file is also the output"
    modify fun a => { a with failed := true }
    return
  let world := (← getThe Work).world
  let file : Label := ⟨name, s.numberWidth world i⟩
  let start := (world.opened[i]?.map OpenFile.position).getD 0
  match ← readOpen i with
  | .error e =>
    s.noteFailure name e
    s.searchText file isInput i start []
  | .ok text => s.searchText file isInput i start text

/-- Search a file below a folder. -/
def searchBelow (s : Search) (name : String) : AnswerM Unit := do
  match ← openInput name with
  | .ok i => s.searchOpen name false i
  | .error e => s.noteFailure name e

/-- Search the files below a folder. Where no folder was named, their names begin below the one to
work in. -/
def searchFolder (s : Search) (name : String) (place : Place) (isNamed : Bool) : AnswerM Unit := do
  let nodes := (← getThe Work).world.nodes
  for file in s.request.filesBelow s.charset nodes (nodes.length + 1) place name do
    s.searchBelow (if isNamed then file else String.ofList (file.toList.drop 2))

/-- Search what a name stands for. -/
def searchNamed (s : Search) (isNamed : Bool) (name : String) : AnswerM Unit := do
  if name = "-" && isNamed then
    match (← getThe Work).process.at? 0 with
    | some i => s.searchOpen s.request.label true i
    | none => s.noteFailure s.request.label .badDescriptor
    return
  match ← openInput name with
  | .error e => s.noteFailure name e
  | .ok i =>
    let r := s.request
    match (← getThe Work).world.opened[i]?.map OpenFile.endpoint with
    | some (.folder place) =>
      if r.folders = .skip || isNamed && r.passesOver s.charset true name then return
      if r.folders = .enter then s.searchFolder name place isNamed
      else s.searchOpen name false i
    | some (.file _) | some (.report _) =>
      if r.passesOver s.charset false name then return
      s.searchOpen name false i
    | _ =>
      if r.devices? = some false || r.passesOver s.charset false name then return
      s.searchOpen name false i

end Search

/-- Whether a name stands for a folder. -/
def isFolder (name : String) : ToolM Bool := do
  let w ← get
  return match (w.process.files w.world).find (Octets.toText name) with
    | .ok .folder => true
    | _ => false

/-- Whether lines are written behind the names of their files. -/
def Request.showsNames (r : Request) (names : List String) : ToolM Bool := do
  match r.names? with
  | some wanted => return wanted
  | none =>
    if 1 < names.length then return true
    if r.folders ≠ .enter then return false
    match names with
    | ["-"] => return false
    | [name] => isFolder name
    | _ => return true

/-- Whether nobody sees what is written, as it goes to the device that takes everything. -/
def isUnseen : ToolM Bool := do
  let w ← get
  return match (w.process.at? 1).bind fun o => w.world.opened[o]? with
    | some f => f.endpoint == .sink
    | none => false

/-- Whether no line can be selected, whatever the expressions are, and no file is listed for that. -/
def Request.isVain (r : Request) : Bool :=
  let isEmpty := match r.sources?.getD [] with
    | [s] => s.text.isEmpty
    | _ => false
  r.listing ≠ .others &&
    (r.most? = some 0 || isEmpty && r.invert && !r.lines && !r.words)

/-- The tool. -/
def program : Program := tool 2 do
  let (r, names) ← readRequest
  let unseen ← isUnseen
  let r := if r.quiet || unseen then { r with listing := .nothing, count := false }
    else if r.listing ≠ .nothing then { r with count := false } else r
  if r.isVain then leave 1
  let palette? ← if r.colors then some <$> Palette.ofEnvironment else pure none
  let finder ← r.finder
  let s : Search :=
    { request := r, finder, charset := (← get).charset, withNames := ← r.showsNames names,
      palette?, unseen }
  let search : Search.AnswerM Unit := do
    match names with
    | [] => if r.folders = .enter then s.searchNamed false "." else s.searchNamed true "-"
    | _ => for name in names do s.searchNamed true name
  let ((), answer) ← search.run {}
  return if answer.failed then 2 else if answer.found then 0 else 1

end SessionHandoff.Tools.Searching
