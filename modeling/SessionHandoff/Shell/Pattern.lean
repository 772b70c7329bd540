/-!
# Shell patterns

A pattern is a text in which a question mark stands for any character, a star for any number of
them, and a bracketed set for one of its members. A backslash takes the meaning off the character
after it. A pattern matches whole texts.
-/

set_option autoImplicit false

namespace SessionHandoff.Shell.Pattern

/-- A member of a set. -/
inductive Member where
  | range (least greatest : Char)
  | kind (name : String)
deriving DecidableEq, Repr

/-- A step of a pattern. -/
inductive Step where
  | char (c : Char)
  | any
  | many
  | set (negated : Bool) (members : List Member)
deriving DecidableEq, Repr

/-- Whether a character is printed and leaves a mark. -/
def isGraphic (c : Char) : Bool :=
  '!' ≤ c && c ≤ '~'

/-- The kinds of characters that a set can name. -/
def kinds : List (String × (Char → Bool)) :=
  [("alnum", Char.isAlphanum), ("alpha", Char.isAlpha), ("blank", fun c => c == ' ' || c == '\t'),
    ("cntrl", fun c => c.toNat < 32 || c.toNat == 127), ("digit", Char.isDigit),
    ("graph", isGraphic), ("lower", Char.isLower), ("print", fun c => c == ' ' || isGraphic c),
    ("punct", fun c => isGraphic c && !c.isAlphanum),
    ("space", fun c => c == ' ' || (9 ≤ c.toNat && c.toNat ≤ 13)), ("upper", Char.isUpper),
    ("xdigit", fun c => c.isDigit || ('a' ≤ c && c ≤ 'f') || ('A' ≤ c && c ≤ 'F'))]

/-- The value by which characters are ordered in ranges: those of the upper half come first. -/
def rank (c : Char) : Nat :=
  (c.toNat + 128) % 256

/-- Whether a member accepts a character. -/
def Member.accepts : Member → Char → Bool
  | .range a b, c => rank a ≤ rank c && rank c ≤ rank b
  | .kind name, c => ((kinds.lookup name).map fun p => p c).getD false

/-! ## Reading patterns -/

/-- The kind that a text names after an opening bracket, and what follows it. -/
def readKind? (text : List Char) : Option (String × List Char) :=
  match text with
  | ':' :: rest =>
    let name := rest.takeWhile fun c => c != ':'
    match rest.drop name.length with
    | ':' :: ']' :: after =>
      let name := String.ofList name
      if (kinds.lookup name).isSome then some (name, after) else none
    | _ => none
  | _ => none

/-- The members of a set from the first on, and what follows the set. Nothing if the set does not
end. -/
def readMembers : Nat → Bool → List Char → Option (List Member × List Char)
  | 0, _, _ => none
  | _ + 1, _, [] => none
  | fuel + 1, isFirst, c :: rest =>
    if c = ']' && !isFirst then some ([], rest)
    else
      match if c = '[' then readKind? rest else none with
      | some (name, after) =>
        (readMembers fuel false after).map fun r => (.kind name :: r.1, r.2)
      | none =>
        let (c, rest) : Char × List Char :=
          if c = '\\' then (rest.headD '\\', rest.drop 1) else (c, rest)
        match rest with
        | '-' :: d :: after =>
          if d = ']' then
            (readMembers fuel false rest).map fun r => (.range c c :: r.1, r.2)
          else
            let (d, after) : Char × List Char :=
              if d = '\\' then (after.headD '\\', after.drop 1) else (d, after)
            (readMembers fuel false after).map fun r => (.range c d :: r.1, r.2)
        | _ => (readMembers fuel false rest).map fun r => (.range c c :: r.1, r.2)

/-- The steps of a pattern, so many at most. -/
def readSteps : Nat → List Char → List Step
  | 0, _ => []
  | _ + 1, [] => []
  | fuel + 1, c :: rest =>
    if c = '?' then .any :: readSteps fuel rest
    else if c = '*' then .many :: readSteps fuel rest
    else if c = '\\' then
      match rest with
      | [] => [.char '\\']
      | d :: after => .char d :: readSteps fuel after
    else if c = '[' then
      let (negated, members) : Bool × List Char :=
        match rest with
        | '!' :: rest => (true, rest)
        | '^' :: rest => (true, rest)
        | rest => (false, rest)
      match readMembers (members.length + 1) true members with
      | some (ms, after) => .set negated ms :: readSteps fuel after
      | none => .char '[' :: readSteps fuel rest
    else .char c :: readSteps fuel rest

/-- The steps of a pattern. -/
def ofText (text : List Char) : List Step :=
  readSteps (text.length + 1) text

/-! ## Matching -/

/-- Whether a step other than many accepts a character. -/
def Step.accepts : Step → Char → Bool
  | .char a, c => a == c
  | .any, _ => true
  | .many, _ => true
  | .set negated ms, c => (ms.any fun m => m.accepts c) != negated

/-- For each place in the steps, whether the steps from there on match the empty text. -/
def endRow : List Step → List Bool
  | [] => [true]
  | .many :: steps =>
    let row := endRow steps
    row.headD false :: row
  | _ :: steps => false :: endRow steps

/-- For each place in the steps, whether the steps from there on match a text, given the same for
the text without its first character. -/
def rowBefore (c : Char) : List Step → List Bool → List Bool
  | .many :: steps, here :: later =>
    let row := rowBefore c steps later
    (row.headD false || here) :: row
  | step :: steps, _ :: later =>
    (step.accepts c && later.headD false) :: rowBefore c steps later
  | _, _ => [false]

/-- Whether the steps match the whole text. From the first star on, a row of answers for each end of
the text keeps the work within the product of the two lengths. -/
def matchesAll : List Step → List Char → Bool
  | [], text => text.isEmpty
  | .many :: steps, text =>
    (text.foldr (fun c row => rowBefore c (.many :: steps) row) (endRow (.many :: steps))).headD
      false
  | step :: steps, text =>
    match text with
    | [] => false
    | c :: rest => step.accepts c && matchesAll steps rest

end SessionHandoff.Shell.Pattern
