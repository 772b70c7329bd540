import SessionHandoff.Processes.Signal
import SessionHandoff.Tools.Environment.Request

/-!
# Actions for signals

A program may be started with signals ignored or blocked, or with their usual actions. Signals are
given by numbers or names. Two of them have one action only and are never blocked.
-/

set_option autoImplicit false

namespace SessionHandoff.Tools.Environment

/-! ## Names -/

/-- The names of signals that differ from those in a shell. -/
def ownNames : List (Nat × String) :=
  [(16, "STKFLT"), (29, "POLL")]

/-- Other names of signals. -/
def otherNames : List (String × Nat) :=
  [("IO", 29), ("IOT", 6), ("CLD", 17)]

/-- The signals that have names. -/
def namedSignals : List Nat :=
  (Signal.numbers.drop 1).filter fun n => n ≠ 32 && n ≠ 33

/-- The name of a signal. -/
def nameOf (n : Nat) : String :=
  (ownNames.lookup n).getD (Signal.name n)

/-- The number that a text is as a whole, which may have a sign and blanks in front. -/
def wholeNumber? (text : List Char) : Option Int :=
  let body := text.dropWhile fun c => c = ' ' || (9 ≤ c.toNat && c.toNat ≤ 13)
  match body with
  | [] => if text.isEmpty then some 0 else none
  | '-' :: ds => (Text.natural? ds).map fun n => -(n : Int)
  | '+' :: ds => (Text.natural? ds).map Int.ofNat
  | ds => (Text.natural? ds).map Int.ofNat

/-- The signal with a name in capital letters. A real-time signal may be counted from the first or
back from the last. -/
def plainlyNamed? (name : String) : Option Nat :=
  let counted (start : String) : Option Int :=
    if name.startsWith start then wholeNumber? (name.toList.drop start.length) else none
  let width : Int := Signal.count - Signal.firstRealTime
  if name = "EXIT" then some 0
  else if (name.toList.head?.map Char.isDigit).getD false then
    (Text.natural? name.toList).filter (· ≤ Signal.count)
  else
    match namedSignals.find? fun n => nameOf n = name, otherNames.lookup name with
    | some n, _ | none, some n => some n
    | none, none =>
      match counted "RTMIN", counted "RTMAX" with
      | some n, _ =>
        if 0 ≤ n ∧ n ≤ width then some (Signal.firstRealTime + n.toNat) else none
      | none, some n => if -width ≤ n ∧ n ≤ 0 then some (Signal.count - n.natAbs) else none
      | none, none => none

/-- The signal that a word names. A number may be the status of a process that the signal ended. -/
def signalOf? (word : String) : Option Nat :=
  let found? : Option Nat :=
    if (word.toList.head?.map Char.isDigit).getD false then
      ((Text.natural? word.toList).filter (· < 1 <<< 31)).map fun n =>
        if 0 < n % 128 ∧ n % 128 < 127 then n % 128 else n
    else
      let name := String.ofList (word.toList.map Char.toUpper)
      (plainlyNamed? name).orElse fun _ =>
        if name.startsWith "SIG" then plainlyNamed? (String.ofList (name.toList.drop 3)) else none
  found?.filter fun n => n = 0 || namedSignals.contains n

/-- The signals that the value of an option names. -/
def signalsOf (value : String) : ToolM (List Nat) := do
  let words := (value.toList.splitOn ',').filter (!·.isEmpty)
  words.mapM fun word => do
    let word := String.ofList word
    match signalOf? word with
    | some (n + 1) => return n + 1
    | _ => misuse ((← inQuotes word) ++ ": invalid signal")

/-- Ask for an action for signals, or for all of them. -/
def Request.askAction (r : Request) (ignores : Bool) (signals? : Option (List Nat)) : Request :=
  let signals := signals?.getD namedSignals
  { r with actions := signals.map (fun n => (n, ⟨ignores, signals?.isNone⟩)) ++ r.actions }

/-- Ask for signals, or for all of them, to be blocked or not. -/
def Request.askMask (r : Request) (blocks : Bool) (signals? : Option (List Nat)) : Request :=
  { r with masks := (signals?.getD namedSignals).map (fun n => (n, blocks)) ++ r.masks }

/-! ## Processes -/

/-- A signal as it is told. -/
def shown (n : Nat) : String :=
  "signal " ++ nameOf n ++ " (" ++ Text.decimalString n ++ ")"

/-- The process with the actions for signals that are asked for. -/
def withActions (r : Request) (p : Process) : ToolM Process := do
  let mut p := p
  for n in namedSignals do
    if let some action := r.actions.lookup n then
      if Signal.isCertain n && !action.lenient then
        fail ("failed to set signal action for signal " ++ Text.decimalString n ++ ": " ++
          Errno.invalidArgument.description)
      tell r ("Reset " ++ shown n ++ " to " ++ (if action.ignores then "IGNORE" else "DEFAULT") ++
        if Signal.isCertain n then " (failure ignored)" else "")
      let others := p.ignored.filter (· ≠ n)
      p := { p with ignored := if action.ignores && !Signal.isCertain n then n :: others
                               else others }
  return p

/-- The process with the signals blocked that are asked for. -/
def withMask (r : Request) (p : Process) : ToolM Process := do
  let mut p := p
  for n in namedSignals do
    if let some blocks := r.masks.lookup n then
      tell r (shown n ++ " mask set to " ++ if blocks then "BLOCK" else "UNBLOCK")
      let others := p.blocked.filter (· ≠ n)
      p := { p with blocked := if blocks && !Signal.isCertain n then n :: others else others }
  match p.ending? (← get).world with
  | some signal => throw (.signal signal)
  | none => return p

/-- List the signals that a process ignores or blocks. -/
def listSignals (p : Process) : ToolM Unit := do
  for n in namedSignals do
    let ignored := p.ignored.contains n
    let blocked := p.blocked.contains n
    if ignored || blocked then
      let name := nameOf n
      let number := Text.decimalString n
      say (name ++ String.ofList (List.replicate (10 - name.length) ' ') ++ " (" ++
        (if n < 10 then " " else "") ++ number ++ "): " ++ (if blocked then "BLOCK" else "") ++
        (if blocked && ignored then "," else "") ++ (if ignored then "IGNORE" else "") ++ "\n")

end SessionHandoff.Tools.Environment
