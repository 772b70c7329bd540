import SessionHandoff.Tools.Searching.Finder

/-!
# Writing what is found

A line is written behind its head: the name of its file, its number and its offset, as they are
asked for. Of a line that is no text nothing is written unless every file counts as text. Either the
whole line is written, with what matches in a color of its own, or only the parts that match.
-/

set_option autoImplicit false

namespace SessionHandoff.Tools.Searching

/-- A line of a file. -/
structure Entry where
  number : Nat
  offset : Nat
  text : List Char

/-- The lines of a text. -/
def entriesOf (lineEnd : Char) (text : List Char) : List Entry :=
  let lines := text.splitOn lineEnd
  let lines := if lines.getLast? = some [] then lines.dropLast else lines
  (lines.foldl (fun (acc : List Entry × Nat × Nat) line =>
    (⟨acc.2.1, acc.2.2, line⟩ :: acc.1, acc.2.1 + 1, acc.2.2 + line.length + 1))
    ([], 1, 0)).1.reverse

/-- A file that is searched, as the output shows it. -/
structure Label where
  name : String
  /-- The width of numbers. -/
  width : Nat := 0

/-- A search. -/
structure Search where
  request : Request
  finder : Finder
  charset : Characters.Charset
  withNames : Bool
  /-- The colors, if there are any. -/
  palette? : Option Palette := none
  /-- Whether nobody sees what is written. -/
  unseen : Bool := false

namespace Search

/-- The octet at the end of lines. -/
def lineEnd (s : Search) : Char :=
  if s.request.zeros then Char.ofNat 0 else '\n'

/-- A line to match in. -/
def line (s : Search) (text : List Char) : Line :=
  { codes := (s.charset.codes text).toArray, charset := s.charset, folds := s.request.folds }

/-- Look for a part of a line from a place on. A search that takes too long is the end. -/
def find (s : Search) (name : String) (l : Line) (i : Nat) : ToolM (Option (Nat × Nat)) := do
  match s.finder.find l i with
  | .part start stop => return some (start, stop)
  | .nothing => return none
  | .tooLong => fail (name ++ ": exceeded PCRE's backtracking limit")

/-- Whether a line is selected. -/
def selects (s : Search) (name : String) (text : List Char) : ToolM Bool := do
  match s.finder.matches? (s.line text) with
  | some found => return found != s.request.invert
  | none =>
    let _ ← s.find name (s.line text) 0
    return false

/-- All parts of a line that match and are not empty, from a place on. -/
def parts (s : Search) (name : String) (l : Line) : Nat → Nat → ToolM (List (Nat × Nat))
  | 0, _ => return []
  | fuel + 1, i => do
    if l.codes.size ≤ i then return []
    match ← s.find name l i with
    | none => return []
    | some (start, stop) =>
      if stop = start then s.parts name l fuel (start + 1)
      else return (start, stop) :: (← s.parts name l fuel stop)

/-! ## Heads -/

/-- A text in one of the colors, if there are any. -/
def paint (s : Search) (color : Palette → String) (text : List Char) : List Char :=
  match s.palette? with
  | some p => p.paint (color p) text
  | none => text

/-- The name of a file. -/
def nameText (s : Search) (name : String) : List Char :=
  s.paint Palette.name name.toList

/-- The name of a file, if it is asked for, with a mark behind it. -/
def nameHead (s : Search) (name : String) (mark : Char) : List Char :=
  if s.withNames then
    s.nameText name ++
      if s.request.zeroNames then [Char.ofNat 0] else s.paint Palette.separator [mark]
  else []

/-- A number with a mark behind it, if it is asked for. -/
def numberHead (s : Search) (wanted : Bool) (width : Nat) (color : Palette → String) (n : Nat)
    (mark : Char) : List Char :=
  if wanted then
    let digits := (Text.decimalString n).toList
    s.paint color (List.replicate (width - digits.length) ' ' ++ digits) ++
      s.paint Palette.separator [mark]
  else []

/-- What stands before a line or a part of one. -/
def head (s : Search) (file : Label) (mark : Char) (number offset : Nat) (isEmpty : Bool) :
    List Char :=
  let r := s.request
  let hasHead := s.withNames || r.numbers || r.offsets
  s.nameHead file.name mark ++ s.numberHead r.numbers file.width Palette.number number mark ++
    s.numberHead r.offsets file.width Palette.offset offset mark ++
    if r.aligned && hasHead && !isEmpty then ['\t'] else []

/-! ## Lines -/

/-- Whether something may be written. -/
def shows (s : Search) (l : Line) (start stop : Nat) : Bool :=
  s.request.binary = .text || l.isSound start stop

/-- A line with its end, which matches along with it where it has to be both a word and a line. -/
def wholeLine (s : Search) (l : Line) : Line :=
  { l with codes := l.codes.push s.lineEnd.toNat }

/-- The parts of a line that are shown as matching. -/
def shownParts (s : Search) (name : String) (l : Line) : ToolM (List (Nat × Nat)) := do
  if s.finder.takesEnd then
    return (← s.find name l 0).toList.map fun p => (p.1, p.2 + 1)
  s.parts name l (l.codes.size + 1) 0

/-- Write parts of a line. Returns whether that could be done. -/
def writeParts (s : Search) (file : Label) (color : Palette → String) (e : Entry) (l : Line) :
    List (Nat × Nat) → ToolM Bool
  | [] => return true
  | (start, stop) :: rest => do
    if !s.shows l start stop then return false
    let mark := if s.request.invert then '-' else ':'
    put (s.head file mark e.number (e.offset + l.offset start) false ++
      s.paint color (l.octets start stop) ++ [s.lineEnd])
    s.writeParts file color e l rest

/-- A line and its end with parts of it in colors of their own, from a place on. Each stretch before
such a part begins with the color of the line. -/
def painted (p : Palette) (lineColor matchColor : String) (l : Line) :
    Nat → List (Nat × Nat) → List Char
  | i, [] =>
    let rest := l.octets i l.codes.size
    if lineColor.isEmpty then rest
    else
      let body := rest.dropLast
      let body := if body.getLast? = some '\r' then body.dropLast else body
      (if body.isEmpty then [] else p.paint lineColor body) ++ rest.drop body.length
  | i, (start, stop) :: more =>
    p.start lineColor ++ l.octets i start ++ p.paint matchColor (l.octets start stop) ++
      painted p lineColor matchColor l stop more

/-- Write a line behind a mark, which says whether it is selected, or the parts of it that match.
Returns whether that could be done. -/
def write (s : Search) (file : Label) (mark : Char) (e : Entry) : ToolM Bool := do
  let r := s.request
  let isSelected := mark = ':'
  let isMatching := isSelected != r.invert
  let l := s.line e.text
  let whole := s.wholeLine l
  let matchColor (p : Palette) : String := if isSelected then p.selectedMatch else p.contextMatch
  if r.onlyParts then
    if !isMatching then return true
    s.writeParts file matchColor e whole (← s.shownParts file.name l)
  else if !s.shows l 0 l.codes.size then return false
  else
    put (s.head file mark e.number e.offset e.text.isEmpty)
    match s.palette? with
    | none => put (e.text ++ [s.lineEnd])
    | some p =>
      let lineColor := if isSelected != (r.invert && p.swaps) then p.selectedLine else p.contextLine
      let isMarked := isMatching && !(matchColor p).isEmpty
      let parts ← if isMarked then s.shownParts file.name l else pure []
      put (painted p lineColor (matchColor p) whole 0 parts)
    return true

end Search

end SessionHandoff.Tools.Searching
