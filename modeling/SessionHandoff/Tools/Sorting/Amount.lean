import SessionHandoff.Tools.Sorting.Order
import SessionHandoff.Tools.Work

/-!
# Amounts

Options of `sort` take amounts: decimal numbers, of which one may have a unit. A number that is too
great, one that is none and a unit that is none are faults, about which there are complaints.
-/

set_option autoImplicit false

namespace SessionHandoff.Tools.Sorting

/-- A number that a text starts with, at most the greatest one, and what follows. -/
structure Amount where
  value : Nat
  tooLarge : Bool
  rest : List Char
deriving DecidableEq, Repr

/-- Why a text is no amount. -/
inductive AmountFault where
  | invalid
  | strayUnit
  | tooLarge
deriving DecidableEq, Repr

namespace Amount

/-- The greatest amount. -/
def greatest : Nat := 1 <<< 64 - 1

/-- An amount is at most the greatest one. -/
def bounded (n : Nat) (rest : List Char) : Amount :=
  ⟨min n greatest, greatest < n, rest⟩

/-- Read an amount without a unit. -/
def read? (text : List Char) : Option Amount :=
  let body := text.dropWhile fun c => c = ' ' || (9 ≤ c.toNat && c.toNat ≤ 13)
  let body := match body with
    | '+' :: rest => rest
    | _ => body
  let ds := body.takeWhile Char.isDigit
  (Text.natural? ds).map fun n => bounded n (body.drop ds.length)

/-- The amount that a text is without a unit. -/
def whole (text : List Char) : Except AmountFault Nat :=
  match read? text with
  | none => .error .invalid
  | some a =>
    if !a.rest.isEmpty then .error .strayUnit
    else if a.tooLarge then .error .tooLarge
    else .ok a.value

/-- The octets that a machine may hold in memory. -/
def memory : Nat := 1 <<< 35

/-- The power of 1024 for the unit of a size. -/
def unitPower? (c : Char) : Option Nat :=
  let c := if "gmt".toList.contains c then c.toUpper else c
  if unitPlace c = 0 then none else some (unitPlace c)

/-- The octets that a size is: so many times 1024 without a unit. A unit may stand alone. -/
def size (text : List Char) : Except AmountFault Nat :=
  let a? := (read? text).orElse fun _ =>
    if (text.head?.bind unitPower?).isSome then some ⟨1, false, text⟩ else none
  let checked (a : Amount) (n : Nat) : Except AmountFault Nat :=
    if a.tooLarge || greatest < n then .error .tooLarge else .ok n
  match a? with
  | none => .error .invalid
  | some a =>
    match a.rest with
    | [] => checked a (a.value * 1024)
    | ['b'] => if a.tooLarge then .error .strayUnit else .ok a.value
    | ['%'] => if a.tooLarge then .error .strayUnit else checked a (memory * a.value / 100)
    | [c] =>
      match unitPower? c with
      | some power => checked a (a.value <<< (10 * power))
      | none => .error .strayUnit
    | _ => .error .strayUnit

end Amount

/-- Complain about the value of an option that is no amount. -/
def refuseAmount {α : Type} (option value : String) (fault : AmountFault) : ToolM α :=
  let argument := option ++ " argument '" ++ value ++ "'"
  fail (match fault with
    | .invalid => "invalid " ++ argument
    | .strayUnit => "invalid suffix in " ++ argument
    | .tooLarge => argument ++ " too large")

/-- The size of a buffer has to be one. -/
def checkSize (option value : String) : ToolM Unit := do
  match Amount.size value.toList with
  | .ok _ => return
  | .error fault => refuseAmount option value fault

/-- The number of workers at once, which has to be positive. -/
def readWorkers (option value : String) : ToolM Nat := do
  match Amount.whole value.toList with
  | .ok 0 => fail "number in parallel must be nonzero"
  | .ok n => return n
  | .error .tooLarge => return Amount.greatest
  | .error fault => refuseAmount option value fault

/-- The files that a tool always has open. -/
def standardFiles : Nat := 3

/-- The number of files merged at once has to be two at least and not more than can be open. -/
def checkBatch (option value : String) : ToolM Unit := do
  let limits := (← get).process.limits
  let most := (limits.bound .openFiles).soft.toNat - standardFiles
  let refuse : ToolM Unit := do
    complain (option ++ " argument " ++ (← inQuotes value) ++ " too large")
    fail ("maximum " ++ option ++ " argument with current rlimit is " ++ Text.decimalString most)
  match Amount.whole value.toList with
  | .ok n =>
    if n < 2 then
      complain ("invalid " ++ option ++ " argument " ++ (← inQuotes value))
      fail ("minimum " ++ option ++ " argument is " ++ (← inQuotes "2"))
    if most < n then refuse
  | .error .tooLarge => refuse
  | .error fault => refuseAmount option value fault

end SessionHandoff.Tools.Sorting
