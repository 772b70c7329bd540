import SessionHandoff.Shell.Builtin.Call

/-!
# Reading lines

`read` reads a line of the standard input and splits it between variables: each gets a field, and
the last gets all that is left. A backslash takes the meaning off the character after it, and joins
a line with the next one.
-/

set_option autoImplicit false

namespace SessionHandoff.Shell

/-- A character of a line that was read. -/
inductive LineChar where
  | plain (c : Char)
  /-- A character after a backslash. -/
  | kept (c : Char)
  /-- The place where a line was joined with the next one. -/
  | joint
deriving DecidableEq, Repr

/-- The characters of a line, and how many bytes it takes. The flag tells that a backslash came
before. -/
def lineChars (raw : Bool) : Bool → List Char → List LineChar × Nat × Bool
  | _, [] => ([], 0, false)
  | afterBackslash, c :: rest =>
    let more (r : List LineChar × Nat × Bool) (cs : List LineChar) : List LineChar × Nat × Bool :=
      (cs ++ r.1, r.2.1 + 1, r.2.2)
    if c = Char.ofNat 0 then more (lineChars raw afterBackslash rest) []
    else if afterBackslash then
      more (lineChars raw false rest) [if c = '\n' then .joint else .kept c]
    else if c = '\\' && !raw then more (lineChars raw true rest) []
    else if c = '\n' then ([], 1, true)
    else more (lineChars raw false rest) [.plain c]

/-- A line that is being split between variables. -/
structure LineSplit where
  /-- The variables that are left without a field. -/
  left : Nat
  /-- The finished fields and the present one, the latest first. -/
  fields : List String := []
  current : List Char := []
  /-- Whether a blank separator was passed. -/
  afterBlank : Bool := false
  /-- How long the last field is without the separators at its end, if it ends with some. -/
  cut? : Option Nat := none
deriving Repr

/-- Split at one character. -/
def LineSplit.step (separators : List Char) (s : LineSplit) (lc : LineChar) : LineSplit :=
  match lc with
  | .joint => { s with afterBlank := false }
  | .kept c => { s with current := c :: s.current, afterBlank := false }
  | .plain c =>
    let separates := separators.contains c
    let blank := separates && blankSeparators.contains c
    if s.left = 0 then
      let longer := c :: s.current
      if blank then
        { s with current := longer, cut? := some (s.cut?.getD s.current.length) }
      else
        { s with
          current := longer
          cut? := if separates && s.afterBlank then s.cut? else none
          afterBlank := false }
    else if s.afterBlank && separates then
      { s with current := [], afterBlank := blank }
    else
      let current := if s.afterBlank then [] else s.current
      if separates then
        if current.isEmpty && blank then { s with current := [], afterBlank := false }
        else if s.left = 1 then
          { s with
            left := 0, afterBlank := blank, current := c :: current
            cut? := some current.length }
        else
          { s with
            left := s.left - 1, afterBlank := blank, current := []
            fields := String.ofList current.reverse :: s.fields }
      else { s with current := c :: current, afterBlank := false }

/-- The fields of a line for so many variables. -/
def splitLine (separators : List Char) (count : Nat) (line : List LineChar) : List String :=
  let s := line.foldl (LineSplit.step separators) { left := count }
  let last := match s.cut? with
    | some n => s.current.reverse.take n
    | none => s.current.reverse
  (if last.isEmpty then s.fields else String.ofList last :: s.fields).reverse

/-- Read a line. -/
def readLine : Builtin := fun call => do
  let options ← call.options "p:r"
  let names := options.rest
  if names.isEmpty then fail "arg count"
  let s ← get
  let (content?, _) := (s.process.readAll 0).run s.world
  let content := match content? with
    | .ok bytes => Octets.ofBytes bytes
    | .error _ => []
  let (line, used, ended) := lineChars (options.has 'r') false content
  set { s with world := ((s.process.read 0 used).run s.world).2 }
  let separators := match s.value? "IFS" with
    | none => blankSeparators
    | some separators => separators.toList
  let fields := splitLine separators names.length line
  for (name, i) in names.zipIdx do
    assignNamed name (fields.getD i "")
  return if ended then 0 else 1

end SessionHandoff.Shell
