import SessionHandoff.Tools.Work

/-!
# Colors of what is found

What matches and what stands before a line may be written in colors. A color is a text of numbers;
the marks that begin and end it are made from that text. Which color each piece has may be set in
the environment, where what is malformed ends the settings.
-/

set_option autoImplicit false

namespace SessionHandoff.Tools.Searching

/-- The colors of the pieces of the output. -/
structure Palette where
  /-- What matches in selected lines, and in lines around them. -/
  selectedMatch : String := "01;31"
  contextMatch : String := "01;31"
  /-- Selected lines, and lines around them. -/
  selectedLine : String := ""
  contextLine : String := ""
  name : String := "35"
  number : String := "32"
  offset : String := "32"
  separator : String := "36"
  /-- Whether the colors of lines change places where the selection is turned around. -/
  swaps : Bool := false
  /-- Whether the marks clear the line up to its end. -/
  clears : Bool := true

namespace Palette

/-- Set the color of one kind of pieces, which is known by two letters. -/
def set (p : Palette) (key value : String) : Palette :=
  match key with
  | "mt" => { p with selectedMatch := value, contextMatch := value }
  | "ms" => { p with selectedMatch := value }
  | "mc" => { p with contextMatch := value }
  | "sl" => { p with selectedLine := value }
  | "cx" => { p with contextLine := value }
  | "fn" => { p with name := value }
  | "ln" => { p with number := value }
  | "bn" => { p with offset := value }
  | "se" => { p with separator := value }
  | _ => p

/-- Set what needs no value, which is known by two letters. A word that says the color of all
matches makes them alike even without one. -/
def switch (p : Palette) (key : String) : Palette :=
  match key with
  | "mt" => { p with contextMatch := p.selectedMatch }
  | "rv" => { p with swaps := true }
  | "ne" => { p with clears := false }
  | _ => p

/-- Whether a text says a color. -/
def isColor (text : List Char) : Bool :=
  text.all fun c => c = ';' || c.isDigit

/-- Change colors by settings, of which those from the first malformed one on do not count. -/
def apply (p : Palette) : List (List Char) → Palette
  | [] => p
  | item :: rest =>
    let key := item.takeWhile (· ≠ '=')
    let name := String.ofList key
    match item.drop key.length with
    | [] => (p.switch name).apply rest
    | _ :: value =>
      if key.isEmpty || !isColor value then p
      else ((p.set name (String.ofList value)).switch name).apply rest

/-- A text in a color. -/
def paint (p : Palette) (color : String) (text : List Char) : List Char :=
  if color.isEmpty then text
  else
    let clear := if p.clears then "\x1b[K" else ""
    ("\x1b[" ++ color ++ "m" ++ clear).toList ++ text ++ ("\x1b[m" ++ clear).toList

/-- The mark that begins a color. -/
def start (p : Palette) (color : String) : List Char :=
  if color.isEmpty then []
  else ("\x1b[" ++ color ++ "m" ++ (if p.clears then "\x1b[K" else "")).toList

/-- The palette of an environment. The older of its two settings says the color of matches. -/
def ofEnvironment : ToolM Palette := do
  let mut p : Palette := {}
  if let some old ← setting? "GREP_COLOR" then
    if !old.isEmpty then
      if isColor old.toList then
        complain ("warning: GREP_COLOR='" ++ old ++ "' is deprecated; use GREP_COLORS='mt=" ++
          old ++ "'")
        p := p.set "mt" old
  match ← setting? "GREP_COLORS" with
  | some settings => return p.apply (settings.toList.splitOn ':')
  | none => return p

end Palette

end SessionHandoff.Tools.Searching
