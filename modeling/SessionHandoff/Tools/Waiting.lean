import SessionHandoff.Processes.Signal
import SessionHandoff.Text.Formatted
import SessionHandoff.Tools.Help.Waiting
import SessionHandoff.Tools.Work

/-!
# Waiting, and nothing

`sleep` waits for the sum of some times, each a real with an optional letter for its unit. `true`
and `false` do nothing and say how that went.
-/

set_option autoImplicit false

namespace SessionHandoff.Tools.Waiting

/-- The milliseconds in a unit. -/
def unit? : List Char → Option Nat
  | [] | ['s'] => some 1000
  | ['m'] => some 60000
  | ['h'] => some 3600000
  | ['d'] => some 86400000
  | _ => none

/-- The longest wait, which never ends as far as anybody can tell. -/
def forever : Nat := 1000000000000000

/-- The milliseconds of a time, rounded up. -/
def milliseconds? (s : String) : Option Nat := do
  let r ← Text.readReal? s.toList
  let unit ← unit? r.rest
  match r.value with
  | .finite negative x =>
    let (num, den) := Text.Directive.quotient x
    if negative && num ≠ 0 then none
    else some (min forever ((num * unit + den - 1) / den))
  | .infinite negative => if negative then none else some forever
  | .undefined _ => none

/-- The tool that waits. A signal ends it before that. -/
def program : Program := tool 1 do
  let (_, operands) ← readArguments ⟨"sleep", Help.waiting⟩ (.simple "" []) () fun _ _ _ => pure ()
  if operands.isEmpty then misuse "missing operand"
  let mut total := 0
  let mut good := true
  for operand in operands do
    match milliseconds? operand with
    | some n => total := total + n
    | none =>
      complain ("invalid time interval " ++ (← inQuotes operand))
      good := false
  unless good do suggestHelp (← get).failure
  let s ← get
  match s.process.ending? s.world with
  | some n => throw (.signal n)
  | none =>
    onWorld fun _ => Process.sleep total
    return 0

/-- The tool that does nothing, known by a name, and ends with a code. With one argument it may be
asked about itself. -/
def idle (name : String) (code : Nat) : Program := tool 1 do
  let outcome := if code = 0 then "success" else "failure"
  match (← get).process.args with
  | ["--help"] =>
    putString (Help.idle name outcome (← get).process.name)
    return code
  | ["--version"] =>
    putString (Help.coreVersion name)
    return code
  | _ => return code

end SessionHandoff.Tools.Waiting
