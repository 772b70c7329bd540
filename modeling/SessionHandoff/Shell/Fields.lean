import SessionHandoff.Shell.Pattern
import SessionHandoff.Storage.FileTree
import SessionHandoff.Text.Octets

/-!
# Fields

An expanded word is a sequence of regions. Characters that came from quotes are marked, because they
are no patterns; whether a region is split at separators depends on where it came from. A word is
split to fields, and a field that is a pattern becomes the names of the files it matches.
-/

set_option autoImplicit false

namespace SessionHandoff.Shell

/-- A character of an expanded word, or the place of a quote. -/
inductive Glyph where
  | mark
  | char (c : Char) (escaped : Bool)
deriving DecidableEq, Repr

/-- How a region is split. -/
inductive Splitting where
  | never
  /-- At the separators. -/
  | atSeparators
  /-- Between arguments. -/
  | atArguments
deriving DecidableEq, Repr

/-- A part of an expanded word. -/
structure Region where
  glyphs : List Glyph
  splitting : Splitting
deriving Repr

/-- The character that stands between arguments. -/
def between : Char := Char.ofNat 0

/-- The separators that are blanks. -/
def blankSeparators : List Char := [' ', '\t', '\n']

/-- The characters of glyphs. -/
def charsOf (glyphs : List Glyph) : List Char :=
  glyphs.filterMap fun
    | .mark => none
    | .char c _ => some c

/-- All glyphs of regions. -/
def glyphsOf (regions : List Region) : List Glyph :=
  regions.flatMap Region.glyphs

/-- The text of regions. -/
def textOf (regions : List Region) : String :=
  String.ofList (charsOf (glyphsOf regions))

/-- The pattern that glyphs spell. A backslash of a value takes the meaning off what follows it, as
one in the script does. -/
def patternOf (glyphs : List Glyph) : List Char :=
  go false glyphs
where
  go (afterBackslash : Bool) : List Glyph → List Char
    | [] => []
    | .mark :: rest => go afterBackslash rest
    | .char c true :: rest =>
      if afterBackslash then c :: go false rest else '\\' :: c :: go false rest
    | .char c false :: rest => c :: go (c == '\\' && !afterBackslash) rest

/-! ## Splitting -/

/-- The state of splitting. -/
structure Split where
  /-- The finished fields, the latest first, and the glyphs of the present field, the latest
  first. -/
  fields : List (List Glyph) := []
  current : List Glyph := []
  /-- Whether a blank separator was passed in this region. -/
  afterBlank : Bool := false
  /-- Whether the region, and the one before it, are split between arguments. -/
  atArguments : Bool := false
  afterArguments : Bool := false

/-- Split at one glyph. -/
def Split.step (separators : List Char) (s : Split) (g : Glyph) : Split :=
  match g with
  | .mark => { s with current := g :: s.current }
  | .char c _ =>
    let separates := c == between || (!s.atArguments && separators.contains c)
    let blank := separates && (c == between || blankSeparators.contains c)
    if s.afterBlank && separates then
      if blank then { s with current := [] } else { s with current := [], afterBlank := false }
    else if s.afterBlank then { s with current := [g], afterBlank := false }
    else if separates then
      let afterBlank := !(s.afterArguments || s.atArguments) && blank
      if s.current.isEmpty && afterBlank then { s with afterBlank := false }
      else { s with fields := s.current.reverse :: s.fields, current := [], afterBlank }
    else { s with current := g :: s.current, afterBlank := false }

/-- Split a region. -/
def Split.region (separators : List Char) (s : Split) (r : Region) : Split :=
  match r.splitting with
  | .never => { s with current := r.glyphs.reverse ++ s.current }
  | splitting =>
    r.glyphs.foldl (Split.step separators)
      { s with
        afterBlank := false
        afterArguments := s.atArguments
        atArguments := splitting == .atArguments }

/-- Split regions to fields. A last field without glyphs is none, except after arguments. -/
def splitFields (separators : List Char) (regions : List Region) : List (List Glyph) :=
  let s := regions.foldl (Split.region separators) {}
  let fields := if s.current.isEmpty && !s.atArguments then s.fields
    else s.current.reverse :: s.fields
  fields.reverse

/-! ## Patterns of files -/

/-- The names in a folder, as octet texts. -/
def namesIn (tree : FileTree) (place : Place) : List String :=
  let inside := tree.nodes.filterMap fun e =>
    if e.1.length = place.length + 1 && place.isPrefixOf e.1 then e.1.getLast? else none
  "." :: ".." :: inside.map Octets.ofText

/-- Whether a component of a path is a pattern. -/
def isPattern (component : List Char) : Bool :=
  (Pattern.ofText component).any fun
    | .char _ => false
    | _ => true

/-- A component without the backslashes that take meanings off. -/
def literalComponent (component : List Char) : String :=
  String.ofList ((Pattern.ofText component).filterMap fun
    | .char c => some c
    | _ => none)

/-- Whether something stands at a path, given as an octet text. -/
def hasPath (tree : FileTree) (path : String) : Bool :=
  tree.hasEntry (Octets.toText path)

/-- The names in the folder at a path, given as an octet text, that a pattern matches. Names that
start with a dot are matched by patterns that do. -/
def matchesIn (tree : FileTree) (folder : String) (pattern : List Char) : List String :=
  match tree.resolve (Octets.toText (if folder.isEmpty then "." else folder)) with
  | .error _ => []
  | .ok target =>
    match tree.get? target.place with
    | some .folder =>
      let steps := Pattern.ofText pattern
      let dotted := steps.head? = some (.char '.')
      (namesIn tree target.place).filter fun name =>
        (dotted || !name.startsWith ".") && Pattern.matchesAll steps name.toList
    | _ => []

/-- The paths that components match after a path that was matched. -/
def matchPaths (tree : FileTree) : String → List (List Char) → List String
  | _, [] => []
  | path, [last] =>
    if isPattern last then (matchesIn tree path last).map (path ++ ·)
    else
      let full := path ++ literalComponent last
      if hasPath tree full then [full] else []
  | path, component :: rest =>
    if isPattern component then
      (matchesIn tree path component).flatMap fun name => matchPaths tree (path ++ name ++ "/") rest
    else matchPaths tree (path ++ literalComponent component ++ "/") rest

/-- Whether one octet text comes before another. -/
def precedes (a b : String) : Bool :=
  go a.toList b.toList
where
  go : List Char → List Char → Bool
    | [], _ => true
    | _ :: _, [] => false
    | c :: a, d :: b => c.toNat < d.toNat || (c == d && go a b)

/-- The paths that a pattern matches, in order; nothing if it is no pattern or matches none. -/
def matchingPaths (tree : FileTree) (pattern : List Char) : List String :=
  let components := pattern.splitOn '/'
  if components.any isPattern then (matchPaths tree "" components).mergeSort precedes else []

end SessionHandoff.Shell
