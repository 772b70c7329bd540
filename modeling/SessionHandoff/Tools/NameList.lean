import SessionHandoff.Tools.Work

/-!
# Lists of names

A tool may read the names of its files from another file, in which the octet zero ends each of them.
-/

set_option autoImplicit false

namespace SessionHandoff.Tools

/-- The names in a file. -/
structure NameList where
  names : List String
  /-- Whether they were in a plain file. -/
  isPlain : Bool

/-- Why names could not be had. -/
inductive NameListFault where
  | notOpened (e : Errno)
  | notRead (e : Errno)

/-- The names in a text. -/
def namesIn (text : List Char) : List String :=
  let parts := text.splitOn (Char.ofNat 0)
  (if parts.getLast? = some [] then parts.dropLast else parts).map String.ofList

/-- Read the names in a file, or on the standard input. -/
def readNameList (name : String) : ToolM (Except NameListFault NameList) := do
  let i? : Except NameListFault Nat ← if name = "-" then do
      pure (match (← get).process.at? 0 with
        | some i => .ok i
        | none => .error (.notRead .badDescriptor))
    else do
      match ← openInput name with
      | .ok i => pure (.ok i)
      | .error e => pure (.error (.notOpened e))
  match i? with
  | .error f => return .error f
  | .ok i =>
    let isPlain := match (← get).world.opened[i]?.map OpenFile.endpoint with
      | some (.file _) | some (.report _) => true
      | _ => false
    match ← readOpen i with
    | .ok text => return .ok ⟨namesIn text, isPlain⟩
    | .error e => return .error (.notRead e)

/-- Complain about an operand besides a list of names. -/
def refuseOperand {α : Type} (operand : String) : ToolM α := do
  complain ("extra operand " ++ (← inShellQuotes operand))
  say "file operands cannot be combined with --files0-from\n"
  suggestHelp (← get).failure

/-- What is wrong with a name, the number of which in a list is given if there is a list. -/
def nameFault? (list? : Option String) (name : String) (number : Nat) :
    ToolM (Option String) := do
  if list? = some "-" && name = "-" then
    return some ("when reading file names from stdin, no file name of " ++ (← inShellQuotes name) ++
      " allowed")
  if !name.isEmpty then return none
  let place ← match list? with
    | some list => pure ((← forShell list) ++ ":" ++ Text.decimalString number ++ ": ")
    | none => pure ""
  return some (place ++ "invalid zero-length file name")

end SessionHandoff.Tools
