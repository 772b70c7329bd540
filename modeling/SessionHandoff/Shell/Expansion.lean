import SessionHandoff.Shell.Fields
import SessionHandoff.Shell.Part
import SessionHandoff.Shell.Sum

/-!
# Expanding words

A word of a script becomes text: tildes become folders, parameters their values, commands what they
write, sums their numbers. A word of a command becomes any number of fields; a word in any other
place becomes one text.

What is kept of a word while it is expanded is said by a `Style`.
-/

set_option autoImplicit false

namespace SessionHandoff.Shell

/-- How a word is expanded. -/
structure Style where
  /-- Whether the word becomes fields. -/
  fields : Bool := false
  /-- Whether quotes are kept apart, because the text is to be a pattern. -/
  keeps : Bool := false
  /-- Whether a tilde at the start stands for a folder. -/
  tilde : Bool := false
  /-- Whether the word is an assignment, with tildes after its parts. -/
  assigns : Bool := false
  quoted : Bool := false
  /-- Whether the word stands in place of a value, and is split like one. -/
  replaces : Bool := false
deriving Repr, Inhabited

namespace Style

/-- For words of commands. -/
def command : Style := { fields := true, keeps := true, tilde := true }

/-- For words that become one text. -/
def text : Style := { tilde := true }

/-- For the values of assignments. -/
def assignment : Style := { assigns := true }

/-- For patterns. -/
def pattern : Style := { keeps := true, tilde := true }

/-- For documents. -/
def document : Style := { quoted := true }

end Style

/-- What a word consists of when tildes and arguments have been found in it. -/
inductive Item where
  | part (p : Part)
  /-- The text of a folder. -/
  | folder (path : String)
  /-- The arguments, each a field of its own. -/
  | arguments

/-! ## Tildes -/

/-- The folder of a user. -/
def folderOfUser? (s : State) (name : String) : Option String :=
  if name.isEmpty then s.value? "HOME"
  else
    match (s.process.files s.world).readFile "/etc/passwd" with
    | .error _ => none
    | .ok bytes =>
      let lines := (Octets.ofBytes bytes).splitOn '\n'
      (lines.map fun line => line.splitOn ':').findSome? fun fields =>
        if fields.head? = some name.toList then (fields[5]?).map String.ofList else none

/-- The name after a tilde, if it consists of characters that are not quoted. -/
def tildeName? (assigns : Bool) : Word → Option (List Char)
  | [] => some []
  | .char c :: rest =>
    if c = '/' || (assigns && c = ':') then some []
    else (tildeName? assigns rest).map (c :: ·)
  | .escaped _ :: _ | .quoteMark :: _ => none
  | _ => none

/-- Find tildes in a word. The flags tell whether one may stand here, and whether one may stand
after the first equals sign still. -/
def findTildes (s : State) (assigns : Bool) : Nat → Bool → Bool → Word → List Item
  | 0, _, _, _ => []
  | _ + 1, _, _, [] => []
  | fuel + 1, here, beforeEquals, p :: rest =>
    let plain : List Item :=
      match p with
      | .char c =>
        let after := assigns && ((beforeEquals && c = '=') || c = ':')
        .part p :: findTildes s assigns fuel after (beforeEquals && c ≠ '=') rest
      | _ => .part p :: findTildes s assigns fuel false beforeEquals rest
    match here, p with
    | true, .char '~' =>
      match tildeName? assigns rest with
      | none => plain
      | some name =>
        match folderOfUser? s (String.ofList name) with
        | none => plain
        | some path =>
          .folder path :: findTildes s assigns fuel false beforeEquals (rest.drop name.length)
    | _, _ => plain

/-- Find the arguments among items: between quotes of their own they are fields of their own. -/
def findArguments : Bool → List Item → List Item
  | _, [] => []
  | false, .part .quoteMark :: .part (.parameter "@" .value false []) :: .part .quoteMark :: rest =>
    .arguments :: findArguments false rest
  | quoted, .part .quoteMark :: rest => .part .quoteMark :: findArguments (!quoted) rest
  | quoted, item :: rest => item :: findArguments quoted rest

/-! ## Values -/

/-- The glyphs of a value. Between quotes, what would have a meaning has none. -/
def valueGlyphs (keeps quoted : Bool) (value : List Char) : List Glyph :=
  value.map fun c => .char c (keeps && quoted && (c == '\\' || patternChars.contains c))

/-- The region of a value that may be split unless it is quoted. -/
def valueRegion (quoted : Bool) (glyphs : List Glyph) : Region :=
  ⟨glyphs, if quoted then .never else .atSeparators⟩

/-- What stands between arguments that become one value: the first separator, if there is one. -/
def argumentSeparator (s : State) : List Char :=
  match s.value? "IFS" with
  | none => [' ']
  | some separators => separators.toList.take 1

/-- The letters of the options that are set. -/
def optionLetters : List Char :=
  ['p', 'u', 'b', 'a', 'C', 'E', 'V', 'v', 'x', 's', 'n', 'm', 'i', 'I', 'f', 'e']

/-- The value of a parameter under a style. -/
def parameterValue? (s : State) (style : Style) (name : String) : Option (List Char) :=
  let joined (separator : List Char) : List Char :=
    separator.intercalate (s.positional.map String.toList)
  let arguments : List Char :=
    if style.quoted || !style.fields then joined (argumentSeparator s)
    else joined (if (s.value? "IFS").isSome then [between] else [' '])
  if name = "@" then
    some (if style.quoted && style.fields then joined [between] else arguments)
  else if name = "*" then some arguments
  else if name = "#" then some (Text.decimal s.positional.length)
  else if name = "?" then some (Text.decimal s.status)
  else if name = "$" then some (Text.decimal s.rootNumber)
  else if name = "!" then s.latestJob?.map Text.decimal
  else if name = "-" then some (optionLetters.filter s.options.contains)
  else
    match Text.natural? name.toList with
    | some 0 => some s.zero.toList
    | some n => (s.positional[n - 1]?).map String.toList
    | none => (s.value? name).map String.toList

/-- The glyphs of a value before the second argument in it. -/
def firstArgument (value : List Glyph) : List Glyph :=
  value.takeWhile fun g => charsOf [g] ≠ [between]

/-- Where the longest or the shortest piece at an end of a value may be cut off, the first choice
first. A search that starts at the start of the value does not go beyond the first argument. -/
def cutsOf (longest atStart : Bool) (value : List Glyph) : List Nat :=
  if longest == atStart then (List.range (value.length + 1)).reverse
  else List.range ((firstArgument value).length + 1)

/-- The part of a value that is left when a match of a pattern is taken off. A piece of arguments is
matched by its first one. -/
def trimmed (longest atStart : Bool) (pattern : List Char) (value : List Glyph) : List Glyph :=
  let steps := Pattern.ofText pattern
  let cut? := (cutsOf longest atStart value).find? fun k =>
    Pattern.matchesAll steps
      (charsOf (firstArgument (if atStart then value.take k else value.drop k)))
  match cut? with
  | none => value
  | some k => if atStart then value.drop k else value.take k

/-- What is said about a parameter without a value. -/
def unsetMessage (name : String) (orEmpty : Bool) : String :=
  name ++ ": parameter not set" ++ (if orEmpty then " or null" else "")

/-- The regions of a parameter. The function that expands its word is given. -/
def expandParameter (inner : Style → Word → ShellM (List Region)) (style : Style) (name : String)
    (operation : Operation) (orEmpty : Bool) (word : Word) : ShellM (List Region) := do
  let s ← get
  if operation = .malformed then fail "Bad substitution"
  let value? := parameterValue? s style name
  let present := value?.any fun v => !(orEmpty && v.isEmpty)
  let splitting : Splitting :=
    if !style.quoted then .atSeparators
    else if name = "@" && !s.positional.isEmpty then .atArguments
    else .never
  let glyphs (value : List Char) : List Glyph := valueGlyphs style.keeps style.quoted value
  let region (value : List Char) : List Region := [⟨glyphs value, splitting⟩]
  let replacing : Style := { style with tilde := true, replaces := true }
  let checkPresent : ShellM Unit := do
    if !present && s.options.contains 'u' then fail (unsetMessage name false)
  let pattern : ShellM (List Char) := do
    return patternOf (glyphsOf (← inner Style.pattern word))
  match operation with
  | .malformed => return []
  | .otherwise => if present then return region (value?.getD []) else inner replacing word
  | .instead => if present then inner replacing word else return region []
  | .assigned =>
    if present then return region (value?.getD [])
    let text := textOf (← inner Style.text word)
    assignNamed name text
    return region ((parameterValue? (← get) style name).getD [])
  | .required =>
    if present then return region (value?.getD [])
    let text := textOf (← inner Style.text word)
    fail (if word.isEmpty then unsetMessage name orEmpty else name ++ ": " ++ text)
  | .value =>
    checkPresent
    return region (value?.getD [])
  | .length =>
    checkPresent
    return region (Text.decimal (value?.getD []).length)
  | .withoutEnd longest =>
    checkPresent
    let p ← pattern
    return [⟨trimmed longest false p (glyphs (value?.getD [])), splitting⟩]
  | .withoutStart longest =>
    checkPresent
    let p ← pattern
    return [⟨trimmed longest true p (glyphs (value?.getD [])), splitting⟩]

/-! ## Words -/

/-- One more literal glyph. Neighbours of one kind form one region. -/
def pushLiteral (g : Glyph) (splitting : Splitting) (regions : List Region) : List Region :=
  match regions with
  | r :: rest =>
    if r.splitting = splitting then ⟨r.glyphs ++ [g], splitting⟩ :: rest
    else ⟨[g], splitting⟩ :: r :: rest
  | [] => [⟨[g], splitting⟩]

/-- The regions of a word, for words nested so deep at most. -/
def expandNested (run : Runner) : Nat → Style → Word → ShellM (List Region)
  | 0, _, _ => return []
  | depth + 1, style, word => do
    let inner := expandNested run depth
    let tildes := findTildes (← get) style.assigns (word.length + 1) style.tilde true word
    let items := findArguments false tildes
    let mut quoted := false
    -- Finished regions and literal ones, the latest first.
    let mut done : List Region := []
    let mut literal : List Region := []
    for item in items do
      let splitting : Splitting :=
        if style.replaces && !style.quoted && !quoted then .atSeparators else .never
      let now : Style := { style with tilde := false, quoted := style.quoted || quoted }
      match item with
      | .part (.char c) => literal := pushLiteral (.char c false) splitting literal
      | .part (.escaped c) => literal := pushLiteral (.char c style.keeps) .never literal
      | .part .quoteMark =>
        quoted := !quoted
        if style.keeps then literal := pushLiteral .mark .never literal
      | .folder path =>
        done := ⟨valueGlyphs style.keeps true path.toList, .never⟩ :: (literal ++ done)
        literal := []
      | .arguments =>
        let regions ← expandParameter inner { now with quoted := true } "@" .value false []
        done := regions.reverse ++ (literal ++ done)
        literal := []
      | .part (.parameter name operation orEmpty word) =>
        let regions ← expandParameter inner now name operation orEmpty word
        done := regions.reverse ++ (literal ++ done)
        literal := []
      | .part (.command body) =>
        let text ← outputOf run body
        let text := (text.filter (· != Char.ofNat 0)).reverse.dropWhile (· == '\n')
        let region := valueRegion now.quoted (valueGlyphs style.keeps now.quoted text.reverse)
        done := region :: (literal ++ done)
        literal := []
      | .part (.sum expression) =>
        let text := textOf (← inner {} expression)
        let n ← sumOf text
        let region := valueRegion now.quoted (valueGlyphs style.keeps now.quoted
          (Text.signedDecimal n))
        done := region :: (literal ++ done)
        literal := []
    return (literal ++ done).reverse

mutual

/-- How deep the words in a word are nested. -/
def wordDepth : List Part → Nat
  | [] => 1
  | p :: rest => max (partDepth p) (wordDepth rest)

/-- How deep the words in a part are nested. -/
def partDepth : Part → Nat
  | .parameter _ _ _ word => wordDepth word + 1
  | .sum expression => wordDepth expression + 1
  | _ => 1

end

/-- The regions of a word. -/
def expand (run : Runner) (style : Style) (word : Word) : ShellM (List Region) :=
  expandNested run (wordDepth word) style word

/-- The text of a word. -/
def expandText (run : Runner) (style : Style) (word : Word) : ShellM String := do
  return textOf (← expand run style word)

/-- The fields of a word of a command. -/
def expandFields (run : Runner) (word : Word) : ShellM (List String) := do
  let regions ← expand run Style.command word
  let s ← get
  let separators := match s.value? "IFS" with
    | none => blankSeparators
    | some separators => separators.toList
  let fields := splitFields separators regions
  if s.options.contains 'f' then return fields.map fun f => String.ofList (charsOf f)
  let tree := s.process.files s.world
  return fields.flatMap fun f =>
    match matchingPaths tree (patternOf f) with
    | [] => [String.ofList (charsOf f)]
    | paths => paths

/-- The fields of words of a command. -/
def expandAll (run : Runner) (words : List Word) : ShellM (List String) := do
  let mut fields := []
  for w in words do
    fields := fields ++ (← expandFields run w)
  return fields

/-- Whether a word, as a pattern, matches a text. -/
def wordMatches (run : Runner) (word : Word) (text : String) : ShellM Bool := do
  let regions ← expand run Style.pattern word
  return Pattern.matchesAll (Pattern.ofText (patternOf (glyphsOf regions))) text.toList

end SessionHandoff.Shell
