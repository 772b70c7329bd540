import SessionHandoff.Tools.Environment.Request

/-!
# Splitting a text into arguments

One text may hold several arguments. Blanks separate them unless they stand in quotes; a backslash
stands for a character that is hard to write, and a name in braces for the value of a variable.
-/

set_option autoImplicit false

namespace SessionHandoff.Tools.Environment

/-- Whether a character separates arguments in a text. -/
def isSeparator (c : Char) : Bool :=
  c = ' ' || (9 ≤ c.toNat && c.toNat ≤ 13)

/-- The quotes that are open in a text. -/
inductive Quotes where
  | none | single | double
deriving DecidableEq

/-- A text that is being split. -/
structure Splitting where
  quotes : Quotes := .none
  /-- The last argument, backwards, if one has begun. -/
  last? : Option (List Char) := none
  /-- The arguments before it, the latest first. -/
  done : List String := []

namespace Splitting

/-- Begin an argument if none has begun. -/
def begin (s : Splitting) : Splitting :=
  { s with last? := some (s.last?.getD []) }

/-- Put a text into the last argument. -/
def append (s : Splitting) (text : List Char) : Splitting :=
  { s with last? := some (text.reverse ++ s.last?.getD []) }

/-- End the last argument. -/
def separate (s : Splitting) : Splitting :=
  match s.last? with
  | some text => { s with last? := none, done := String.ofList text.reverse :: s.done }
  | none => s

/-- The arguments. -/
def arguments (s : Splitting) : List String :=
  s.separate.done.reverse

end Splitting

/-- The name of a variable in braces at the start of a text, and what follows. -/
def bracedName? (text : List Char) : Option (String × List Char) :=
  match text with
  | '{' :: rest =>
    let name := rest.takeWhile fun c => c.isAlphanum || c = '_'
    match rest.drop name.length with
    | '}' :: after =>
      if name.isEmpty || (name.head?.map Char.isDigit).getD true then none
      else some (String.ofList name, after)
    | _ => none
  | _ => none

/-- The character that an escape stands for, between double quotes or not. -/
def escaped? (double : Bool) (c : Char) : Option Char :=
  match c with
  | '"' | '#' | '$' | '\'' | '\\' => some c
  | '_' => if double then some ' ' else none
  | 'f' => some (Char.ofNat 12)
  | 'n' => some '\n'
  | 'r' => some '\r'
  | 't' => some '\t'
  | 'v' => some (Char.ofNat 11)
  | _ => none

/-- Split a text. The length of the text bounds the steps. -/
def split (r : Request) : Nat → Splitting → List Char → ToolM (List String)
  | 0, s, _ => return s.arguments
  | fuel + 1, s, text => do
    match text with
    | [] =>
      if s.quotes ≠ .none then fail "no terminating quote in -S string"
      return s.arguments
    | c :: rest =>
      let plain := s.quotes = .none
      let isSingle := s.quotes = .single
      if c = '\'' ∧ s.quotes ≠ .double then
        split r fuel { s.begin with quotes := if isSingle then .none else .single } rest
      else if c = '"' ∧ !isSingle then
        split r fuel { s.begin with quotes := if plain then .double else .none } rest
      else if isSeparator c ∧ plain then split r fuel s.separate rest
      else if c = '#' ∧ s.last?.isNone then return s.arguments
      else if c = '\\' ∧ !(isSingle ∧ rest.head? ≠ some '\\' ∧ rest.head? ≠ some '\'') then
        match rest with
        | [] => fail "invalid backslash at end of string in -S"
        | e :: rest =>
          if e = '_' ∧ plain then split r fuel s.separate rest
          else if e = 'c' then
            if plain then return s.arguments
            fail "'\\c' must not appear in double-quoted -S string"
          else
            match escaped? (!plain) e with
            | some c => split r fuel (s.append [c]) rest
            | none => fail ("invalid sequence '\\" ++ String.singleton e ++ "' in -S")
      else if c = '$' ∧ !isSingle then
        match bracedName? rest with
        | none =>
          fail ("only $\x7bVARNAME\x7d expansion is supported, error at: " ++ String.ofList text)
        | some (name, rest) =>
          match ← setting? name with
          | some value =>
            tell r ("expanding $\x7b" ++ name ++ "\x7d into " ++ (← inQuotes value))
            split r fuel (s.append value.toList) rest
          | none =>
            tell r ("replacing $\x7b" ++ name ++ "\x7d with null string")
            split r fuel s rest
      else split r fuel (s.append [c]) rest

/-- Split the value of an option. -/
def splitValue (r : Request) (value : String) : ToolM (List String) := do
  let args ← split r (value.length + 1) {} value.toList
  match args with
  | [] => return []
  | first :: others =>
    tell r ("split -S:  " ++ (← inQuotes value))
    tell r (" into:    " ++ (← inQuotes first))
    for arg in others do tell r ("     &    " ++ (← inQuotes arg))
    return args

end SessionHandoff.Tools.Environment
