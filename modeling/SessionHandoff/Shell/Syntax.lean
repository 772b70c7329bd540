/-!
# Scripts

What a shell reads from a script: words with the substitutions in them, redirections, and commands.

A word is a list of parts. Quotes stay in it as marks, so that the parts between two marks are
quoted; a character that would have a meaning and was quoted is kept apart from the others. The text
of a document that follows its command is kept elsewhere, and a redirection knows its number.
-/

set_option autoImplicit false

namespace SessionHandoff.Shell

/-- What a substitution makes of the value of a parameter. -/
inductive Operation where
  | value
  | length
  /-- Use the word if there is no value. -/
  | otherwise
  /-- Use the word if there is a value. -/
  | instead
  /-- Complain if there is no value. -/
  | required
  /-- Assign the word if there is no value. -/
  | assigned
  /-- Take a match of the word off the end. -/
  | withoutEnd (longest : Bool)
  /-- Take a match of the word off the start. -/
  | withoutStart (longest : Bool)
  /-- The substitution has no meaning. -/
  | malformed
deriving DecidableEq, Repr, Inhabited

/-- Where a redirection leads. -/
inductive Direction where
  | input | output | append | clobber | both
deriving DecidableEq, Repr, Inhabited

mutual

/-- A part of a word. -/
inductive Part where
  | char (c : Char)
  /-- A quoted character that would have a meaning. -/
  | escaped (c : Char)
  /-- The start or the end of a quotation. -/
  | quoteMark
  /-- The value of a parameter. With `orEmpty`, an empty value counts as none. -/
  | parameter (name : String) (operation : Operation) (orEmpty : Bool) (word : List Part)
  /-- What a command writes. -/
  | command (body : Option Command)
  /-- The value of an expression. -/
  | sum (expression : List Part)

/-- A redirection of the thing open under a number. -/
inductive Redirection where
  | file (fd : Nat) (direction : Direction) (path : List Part)
  /-- Another number, or nothing. -/
  | duplicate (fd : Nat) (source : Option Nat)
  /-- A number that a word stands for. -/
  | duplicateWord (fd : Nat) (source : List Part)
  /-- A document, in which substitutions are made or not. -/
  | document (fd : Nat) (expands : Bool) (number : Nat)

/-- A command. Those that can fail at the redirections know their lines. -/
inductive Command where
  | simple (line : Nat) (assignments words : List (List Part)) (redirections : List Redirection)
  | pipeline (commands : List Command) (background : Bool)
  | background (line : Nat) (body : Command) (redirections : List Redirection)
  | redirected (line : Nat) (body : Command) (redirections : List Redirection)
  | subshell (line : Nat) (body : Command) (redirections : List Redirection)
  | sequence (first second : Command)
  | both (first second : Command)
  | either (first second : Command)
  | negated (body : Command)
  | conditional (test body : Command) (otherwise : Option Command)
  | loop (untilHolds : Bool) (test body : Command)
  | forEach (line : Nat) (name : String) (words : List (List Part)) (body : Command)
  | choice (line : Nat) (word : List Part) (branches : List (List (List Part) × Option Command))
  | function (name : String) (body : Command)

end

instance : Inhabited Part := ⟨.quoteMark⟩

instance : Inhabited Command := ⟨.simple 0 [] [] []⟩

/-- A word. -/
abbrev Word := List Part

namespace Word

/-- The text of a word that consists of characters without quotes and substitutions. -/
def plain? : Word → Option (List Char)
  | [] => some []
  | .char c :: rest => (plain? rest).map (c :: ·)
  | _ => none

/-- The characters that a word starts with before its first other part. -/
def leadingChars : Word → List Char
  | .char c :: rest => c :: leadingChars rest
  | _ => []

/-- The word that stands for the arguments, each a word of its own. -/
def arguments : Word :=
  [.quoteMark, .parameter "@" .value false [], .quoteMark]

end Word

/-! ## Names -/

/-- Whether a name may start with the character. -/
def isNameStart (c : Char) : Bool :=
  c.isAlpha || c == '_'

/-- Whether a name may go on with the character. -/
def isNameRest (c : Char) : Bool :=
  isNameStart c || c.isDigit

/-- The name that a text starts with. -/
def leadingName (text : List Char) : List Char :=
  match text with
  | c :: rest => if isNameStart c then c :: rest.takeWhile isNameRest else []
  | [] => []

/-- Whether a text is a name. -/
def isName (text : List Char) : Bool :=
  !text.isEmpty && (leadingName text).length == text.length

/-- Whether a text starts like an assignment. -/
def isAssignment (text : List Char) : Bool :=
  let name := leadingName text
  !name.isEmpty && text[name.length]? == some '='

/-- Whether the character names a parameter that is no variable. -/
def isSpecialParameter (c : Char) : Bool :=
  c.isDigit || ['#', '?', '$', '!', '-', '*', '@'].contains c

end SessionHandoff.Shell
