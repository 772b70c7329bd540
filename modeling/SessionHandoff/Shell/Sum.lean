import SessionHandoff.Shell.State

/-!
# Sums

The value of an expression over integers that wrap around, with the operators and the precedence of
C. An expression may assign variables, so it is computed while it is read; a part whose value does
not matter is read without effect.
-/

set_option autoImplicit false

namespace SessionHandoff.Shell

/-- A token of an expression. -/
inductive SumToken where
  | number (n : Int)
  | name (s : String)
  | sign (s : String)
deriving DecidableEq, Repr

/-- The signs, longer ones before their beginnings. -/
def sumSigns : List String :=
  ["<<=", ">>=", "<<", ">>", "<=", ">=", "==", "!=", "&&", "||", "+=", "-=", "*=", "/=", "%=",
    "&=", "|=", "^=", "<", ">", "=", "!", "&", "|", "+", "-", "*", "/", "%", "^", "~", "(", ")",
    "?", ":"]

/-- The tokens of an expression, so many at most. A character that starts none is a sign of no
meaning. -/
def sumTokens : Nat → List Char → List SumToken
  | 0, _ => []
  | _ + 1, [] => []
  | fuel + 1, c :: rest =>
    if c = ' ' || c = '\t' || c = '\n' then sumTokens fuel rest
    else if c.isDigit then
      let r := readInteger none (c :: rest)
      .number (clamp (r.1.getD 0)) :: sumTokens fuel r.2
    else if isNameStart c then
      let name := leadingName (c :: rest)
      .name (String.ofList name) :: sumTokens fuel ((c :: rest).drop name.length)
    else
      match sumSigns.find? fun s => s.toList.isPrefixOf (c :: rest) with
      | some s => .sign s :: sumTokens fuel ((c :: rest).drop s.length)
      | none => [.sign "?!"]

/-- An expression that is being read: its text and the tokens that are left. -/
structure SumReading where
  text : String
  tokens : List SumToken

/-- Computing while reading. -/
abbrev SumM := StateT SumReading ShellM

/-- Stop at an expression without meaning. -/
def refuseSum {α : Type} (problem : String) : SumM α := do
  let text := (← get).text
  (fail ("arithmetic expression: " ++ problem ++ ": \"" ++ text ++ "\"") : ShellM α)

/-- The next token, which stays. -/
def peek : SumM (Option SumToken) := do
  return (← get).tokens.head?

/-- Pass over a token. -/
def advance : SumM Unit :=
  modify fun s => { s with tokens := s.tokens.drop 1 }

/-- The value of a variable in an expression; one without a value counts as zero. -/
def sumVariable (name : String) : ShellM Int := do
  match (← get).value? name with
  | none => return 0
  | some value => integer none value

/-- The integer of a condition. -/
def truth (b : Bool) : Int :=
  if b then 1 else 0

/-- The bits of an integer. -/
def bits (n : Int) : BitVec 64 :=
  BitVec.ofInt 64 n

/-- The result of an operator, if it has one. -/
def applySign? (sign : String) (a b : Int) : Option Int :=
  match sign with
  | "*" => some (wrap (a * b))
  | "/" => if b = 0 then none else some (wrap (a.tdiv b))
  | "%" => if b = 0 then none else some (a.tmod b)
  | "+" => some (wrap (a + b))
  | "-" => some (wrap (a - b))
  | "<<" => some (bits a <<< ((b % 64).toNat)).toInt
  | ">>" => some (a >>> ((b % 64).toNat))
  | "<" => some (truth (a < b))
  | "<=" => some (truth (a ≤ b))
  | ">" => some (truth (b < a))
  | ">=" => some (truth (b ≤ a))
  | "==" => some (truth (a = b))
  | "!=" => some (truth (a ≠ b))
  | "&" => some (bits a &&& bits b).toInt
  | "^" => some (bits a ^^^ bits b).toInt
  | _ => some (bits a ||| bits b).toInt

/-- Whether a quotient is too great for an integer. -/
def overflows (sign : String) (a b : Int) : Bool :=
  (sign == "/" || sign == "%") && b == -1 && wrap (-a) ≠ -a

/-- The result of an operator. A division by zero is an error, and one whose quotient is too great
ends the process. -/
def applySign (sign : String) (a b : Int) : SumM Int := do
  if overflows sign a b then throw (.ended (.signal Signal.arithmetic))
  match applySign? sign a b with
  | some n => return n
  | none => refuseSum "division by zero"

/-- The operators by precedence, weakest first. -/
def precedences : List (List String) :=
  [["|"], ["^"], ["&"], ["==", "!="], ["<", "<=", ">", ">="], ["<<", ">>"], ["+", "-"],
    ["*", "/", "%"]]

/-- The next token, if it is one of some signs. -/
def signAmong (signs : List String) : SumM (Option String) := do
  match ← peek with
  | some (.sign s) => return if signs.contains s then some s else none
  | _ => return none

/-- A value: a number, a variable, an expression in parentheses, or a sign before a value. -/
def sumPrimary (whole : Bool → SumM Int) (dead : Bool) : Nat → SumM Int
  | 0 => refuseSum "expecting primary"
  | fuel + 1 => do
    let t ← peek
    match t with
    | some (.number n) =>
      advance
      return n
    | some (.name name) =>
      advance
      if dead then return 0 else sumVariable name
    | some (.sign "(") =>
      advance
      let n ← whole dead
      match ← peek with
      | some (.sign ")") =>
        advance
        return n
      | _ => refuseSum "expecting ')'"
    | some (.sign "+") =>
      advance
      sumPrimary whole dead fuel
    | some (.sign "-") =>
      advance
      return wrap (-(← sumPrimary whole dead fuel))
    | some (.sign "!") =>
      advance
      return truth ((← sumPrimary whole dead fuel) = 0)
    | some (.sign "~") =>
      advance
      return -(← sumPrimary whole dead fuel) - 1
    | _ => refuseSum "expecting primary"

/-- Values joined by operators of one precedence, after the first. -/
def sumJoined (operand : SumM Int) (signs : List String) (dead : Bool) : Nat → Int → SumM Int
  | 0, a => return a
  | fuel + 1, a => do
    match ← signAmong signs with
    | none => return a
    | some sign =>
      advance
      let b ← operand
      sumJoined operand signs dead fuel (← if dead then pure b else applySign sign a b)

/-- Values joined by operators. -/
def sumOperators (primary : SumM Int) (dead : Bool) : List (List String) → SumM Int
  | [] => primary
  | signs :: stronger => do
    let operand := sumOperators primary dead stronger
    let a ← operand
    sumJoined operand signs dead ((← get).tokens.length + 1) a

/-- Conditions joined by "and". -/
def sumBoth (operators : Bool → SumM Int) : Nat → Bool → SumM Int
  | 0, _ => refuseSum "expecting primary"
  | fuel + 1, dead => do
    let a ← operators dead
    match ← signAmong ["&&"] with
    | none => return a
    | some _ =>
      advance
      let b ← sumBoth operators fuel (dead || a = 0)
      return truth (a ≠ 0 ∧ b ≠ 0)

/-- Conditions joined by "or". -/
def sumEither (both : Bool → SumM Int) : Nat → Bool → SumM Int
  | 0, _ => refuseSum "expecting primary"
  | fuel + 1, dead => do
    let a ← both dead
    match ← signAmong ["||"] with
    | none => return a
    | some _ =>
      advance
      let b ← sumEither both fuel (dead || a ≠ 0)
      return truth (a ≠ 0 ∨ b ≠ 0)

/-- A choice between two expressions. -/
def sumChoice (either whole : Bool → SumM Int) : Nat → Bool → SumM Int
  | 0, _ => refuseSum "expecting primary"
  | fuel + 1, dead => do
    let a ← either dead
    match ← signAmong ["?"] with
    | none => return a
    | some _ =>
      advance
      let b ← whole (dead || a = 0)
      match ← signAmong [":"] with
      | none => refuseSum "expecting ':'"
      | some _ =>
        advance
        let c ← sumChoice either whole fuel (dead || a ≠ 0)
        return if a ≠ 0 then b else c

/-- The signs that assign, with the operators they apply. -/
def assigningSigns : List (String × Option String) :=
  [("=", none), ("+=", some "+"), ("-=", some "-"), ("*=", some "*"), ("/=", some "/"),
    ("%=", some "%"), ("<<=", some "<<"), (">>=", some ">>"), ("&=", some "&"), ("|=", some "|"),
    ("^=", some "^")]

/-- An expression: an assignment or a choice. The function for expressions inside it is given. -/
def sumAssignment (whole : Bool → SumM Int) (fuel : Nat) (dead : Bool) : SumM Int := do
  let operators (dead : Bool) : SumM Int :=
    sumOperators (sumPrimary whole dead fuel) dead precedences
  let choice : SumM Int :=
    sumChoice (sumEither (sumBoth operators fuel) fuel) whole fuel dead
  match (← get).tokens with
  | .name name :: .sign sign :: _ =>
    match assigningSigns.lookup sign with
    | none => choice
    | some operator? =>
      advance
      advance
      let n ← whole dead
      if dead then return n
      let n ← match operator? with
        | none => pure n
        | some operator => do applySign operator (← sumVariable name) n
      (assignNamed name (Text.signedString n) : ShellM Unit)
      return n
  | _ => choice

/-- An expression, nested so deep at most. -/
def sumWhole : Nat → Bool → SumM Int
  | 0, _ => refuseSum "expecting primary"
  | fuel + 1, dead => sumAssignment (sumWhole fuel) (fuel + 1) dead

/-- The value of an expression. -/
def sumOf (text : String) : ShellM Int := do
  let tokens := sumTokens (text.length + 1) text.toList
  let act : SumM Int := do
    let n ← sumWhole (tokens.length + 2) false
    if (← get).tokens.isEmpty then return n
    refuseSum "expecting EOF"
  return (← act.run ⟨text, tokens⟩).1

end SessionHandoff.Shell
