import SessionHandoff.Shell.Builtin.Call

/-!
# Conditions

`test` computes a condition from its arguments: operators on files, texts and integers, joined by
"and", "or" and "not". The arguments are read from the left, and an argument counts as an operator
only where an operand could follow it.
-/

set_option autoImplicit false

namespace SessionHandoff.Shell

/-- How an operator of a condition is used. -/
inductive Arity where
  | one | two | negation | joining | parenthesis
deriving DecidableEq, Repr

/-- The operators of conditions. -/
def conditionOperators : List (String × Arity) :=
  (["-r", "-w", "-x", "-e", "-f", "-d", "-c", "-b", "-p", "-u", "-g", "-k", "-s", "-t", "-z", "-n",
    "-h", "-O", "-G", "-L", "-S"].map (·, Arity.one)) ++
  (["=", "!=", "<", ">", "-eq", "-ne", "-ge", "-gt", "-le", "-lt", "-nt", "-ot", "-ef"].map
    (·, Arity.two)) ++
  [("!", .negation), ("-a", .joining), ("-o", .joining), ("(", .parenthesis), (")", .parenthesis)]

/-- Reading a condition: the arguments from the present one on. -/
abbrev ConditionM := StateT (List String) ShellM

/-- A token of a condition. -/
inductive ConditionToken where
  | finish
  | operand
  | operator (s : String) (arity : Arity)
deriving DecidableEq, Repr

/-- Whether the first argument can only be an operand because of what follows it. -/
def isOperand : List String → Bool
  | [_] => true
  | [_, _] => false
  | _ :: s :: _ => conditionOperators.lookup s = some .two
  | [] => false

/-- The token at the start of arguments. -/
def conditionToken (args : List String) : ConditionToken :=
  match args with
  | [] => .finish
  | s :: rest =>
    match conditionOperators.lookup s with
    | none => .operand
    | some arity =>
      if arity = .one && isOperand args then .operand
      else if s = "(" && rest.isEmpty then .operand
      else .operator s arity

/-- Stop at a condition without meaning. -/
def refuseCondition {α : Type} (argument message : String) : ConditionM α :=
  (fail (if argument.isEmpty then message else argument ++ ": " ++ message) : ShellM α)

/-! ## Files -/

/-- What a path leads to, through the numbers of the shell that it may stand for. -/
def endpointOf? (s : State) (path : String) : Option Endpoint :=
  let files := s.process.files s.world
  match files.find (Octets.toText path), files.resolve (Octets.toText path) with
  | .ok node, .ok target =>
    match node with
    | .folder => some (.folder target.place)
    | .file .. => some (.file target.place)
    | .sink => some .sink
    | .full => some .full
    | .endless => some .endless
    | .terminal => some .full
    | .report _ => some (.report [])
    | .link _ => none
    | .descriptor n => ((s.process.at? n).bind fun i => s.world.opened[i]?).map OpenFile.endpoint
  | _, _ => none

/-- Whether a file has a property. -/
def hasProperty (s : State) (letter path : String) : Bool :=
  if letter = "-L" || letter = "-h" then (s.process.files s.world).isLink (Octets.toText path)
  else match endpointOf? s path with
  | none => false
  | some endpoint =>
    let node? : Option Node := match endpoint with
      | .file place => s.world.nodes.lookup place
      | .folder _ => some .folder
      | _ => none
    let mode : UInt32 := match node? with
      | some (.file _ mode) => mode
      | _ => 0
    let isDevice := [Endpoint.sink, .full, .endless].contains endpoint
    match letter with
    | "-e" | "-O" | "-G" => true
    | "-f" => match endpoint with
      | .file _ | .report _ => true
      | _ => false
    | "-d" => node? == some .folder
    | "-c" => isDevice
    | "-p" => match endpoint with
      | .pipe _ | .stream _ => true
      | _ => false
    | "-s" => match node? with
      | some (.file content _) => !content.isEmpty
      | some .folder => true
      | _ => false
    | "-r" => (node?.map fun n => n.permits readMask).getD true
    | "-w" => match endpoint with
      | .report _ => false
      | _ => (node?.map fun n => n.permits writeMask).getD true
    | "-x" => (node?.map fun n => n.permits executeMask).getD false
    | "-u" => mode &&& 0o4000 != 0
    | "-g" => mode &&& 0o2000 != 0
    | "-k" => mode &&& 0o1000 != 0 || endpoint == .folder ["tmp"]
    | _ => false

/-! ## Operators -/

/-- The value of an operator with one operand. -/
def applyToOne (operator operand : String) : ShellM Bool := do
  match operator with
  | "-z" => return operand.isEmpty
  | "-n" => return !operand.isEmpty
  | "-t" =>
    let _ ← integer (some 10) operand
    return false
  | _ => return hasProperty (← get) operator operand

/-- The value of an operator with two operands. -/
def applyToTwo (a operator b : String) : ShellM Bool := do
  let integers (p : Int → Int → Bool) : ShellM Bool := do
    let m ← integer (some 10) a
    let n ← integer (some 10) b
    return p m n
  match operator with
  | "=" => return a == b
  | "!=" => return a != b
  | "<" => return a != b && precedes a b
  | ">" => return a != b && precedes b a
  | "-eq" => integers fun m n => m == n
  | "-ne" => integers fun m n => m != n
  | "-ge" => integers fun m n => n ≤ m
  | "-gt" => integers fun m n => n < m
  | "-le" => integers fun m n => m ≤ n
  | "-lt" => integers fun m n => m < n
  | "-ef" =>
    let s ← get
    return (endpointOf? s a).isSome && endpointOf? s a == endpointOf? s b
  | _ => return false

/-! ## Conditions -/

/-- Move on by so many arguments. -/
def moveOn (n : Nat) : ConditionM Unit :=
  modify fun args => args.drop n

/-- A condition without joining operators, from its token on. -/
def primary (whole : ConditionToken → ConditionM Bool) (t : ConditionToken) : ConditionM Bool := do
  match t with
  | .finish => return false
  | .operator "(" _ =>
    moveOn 1
    let t := conditionToken (← get)
    if let .operator ")" _ := t then return false
    let b ← whole t
    moveOn 1
    match conditionToken (← get) with
    | .operator ")" _ => return b
    | _ => refuseCondition "" "closing paren expected"
  | .operator operator .one =>
    moveOn 1
    match ← get with
    | [] => refuseCondition operator "argument expected"
    | operand :: _ => (applyToOne operator operand : ShellM Bool)
  | _ =>
    let args ← get
    match conditionToken (args.drop 1) with
    | .operator operator .two =>
      moveOn 2
      match ← get with
      | [] => refuseCondition operator "argument expected"
      | b :: _ => (applyToTwo (args.headD "") operator b : ShellM Bool)
    | _ => return !(args.headD "").isEmpty

/-- A condition that may be negated, so many times at most. -/
def negated (whole : ConditionToken → ConditionM Bool) : Nat → ConditionToken → ConditionM Bool
  | 0, _ => return false
  | fuel + 1, t => do
    match t with
    | .operator "!" _ =>
      let next := conditionToken ((← get).drop 1)
      if next ≠ .finish then moveOn 1
      return !(← negated whole fuel next)
    | _ => primary whole t

/-- Conditions joined by an operator, so many at most. All of them are computed. -/
def joined (operator : String) (part : ConditionToken → ConditionM Bool) :
    Nat → ConditionToken → ConditionM (List Bool)
  | 0, _ => return []
  | fuel + 1, t => do
    let b ← part t
    match conditionToken ((← get).drop 1) with
    | .operator o _ =>
      if o ≠ operator then return [b]
      moveOn 2
      return b :: (← joined operator part fuel (conditionToken (← get)))
    | _ => return [b]

/-- A whole condition, nested so deep at most. -/
def condition : Nat → ConditionToken → ConditionM Bool
  | 0, _ => return false
  | fuel + 1, t => do
    let part := negated (condition fuel) (fuel + 1)
    let both (t : ConditionToken) : ConditionM Bool := do
      return (← joined "-a" part (fuel + 1) t).all id
    return (← joined "-o" both (fuel + 1) t).any id

/-- The rest of four arguments that start with two negations, which count as one. -/
def afterTwoNegations? : List String → Option (List String)
  | ["!", "!", a, b] =>
    if conditionOperators.lookup a = some .two then none else some [a, b]
  | _ => none

/-- Whether the condition of arguments holds. Conditions of three or four arguments are taken
apart first, so that operators can be operands there. -/
def holds : Nat → List String → ShellM Bool
  | 0, _ => return false
  | _ + 1, [] => return false
  | fuel + 1, args => do
    let whole (args : List String) (t : ConditionToken) : ShellM Bool := do
      let (b, rest) ← (condition (args.length + 2) t).run args
      match rest with
      | a :: _ :: _ =>
        fail (if a.isEmpty then "unexpected operator" else a ++ ": unexpected operator")
      | _ => return b
    if let some rest := afterTwoNegations? args then
      return !(← whole rest (conditionToken rest))
    let isThree := args.length = 3
    if isThree && conditionOperators.lookup (args.getD 1 "") = some .two then whole args .operand
    else if isThree || args.length = 4 then
      if args.head? = some "(" && args.getLast? = some ")" then
        let inner := (args.drop 1).dropLast
        whole inner (conditionToken inner)
      else if args.head? = some "!" then return !(← holds fuel (args.drop 1))
      else whole args (conditionToken args)
    else whole args (conditionToken args)

/-- Compute a condition. -/
def test : Builtin := fun call => do
  let args ← (do
    if call.name.startsWith "[" then
      if call.args.getLast? ≠ some "]" then fail "missing ]"
      return call.args.dropLast
    else return call.args)
  return if ← holds (args.length + 1) args then 0 else 1

end SessionHandoff.Shell
