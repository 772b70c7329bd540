import SessionHandoff.Shell.Outside

/-!
# Calls of builtin commands

A builtin command gets its arguments and writes on the standard output when it has ended. Options
are letters after a dash, each perhaps with an argument of its own.
-/

set_option autoImplicit false

namespace SessionHandoff.Shell

/-- A call of a builtin command. -/
structure Call where
  name : String
  args : List String
  /-- Whether it is being tested if the command fails. -/
  tested : Bool := false
deriving Repr

/-- A builtin command. -/
abbrev Builtin := Call → ShellM Nat

/-- Write a text when the builtin command has ended. -/
def emit (text : String) : ShellM Unit :=
  modify fun s => { s with pending := text :: s.pending }

/-- Write what a builtin command has to write. Returns whether that could be done. -/
def flush : ShellM Bool := do
  let s ← get
  set { s with pending := [] }
  match ← writeTo 1 (String.join s.pending.reverse) with
  | .ok () => return true
  | .error _ => return s.pending.all String.isEmpty

/-- Options that were read: letters with their arguments, and the arguments that are left. -/
structure Options where
  letters : List (Char × String) := []
  rest : List String
deriving Repr

/-- Read options from arguments. A letter that is followed by a colon takes an argument. -/
def readOptionsFrom (known : List Char) : Nat → List Char → List String →
    ShellM Options
  | 0, _, args => return { rest := args }
  | fuel + 1, c :: more, args => do
    let after := known.dropWhile (· != c)
    if after.isEmpty || c = ':' then fail ("Illegal option -" ++ String.singleton c)
    let (value, more, args) ← (do
      if after[1]? ≠ some ':' then return ("", more, args)
      if !more.isEmpty then return (String.ofList more, [], args)
      match args with
      | value :: args => return (value, [], args)
      | [] => fail ("No arg for -" ++ String.singleton c ++ " option"))
    let options ← readOptionsFrom known fuel more args
    return { options with letters := (c, value) :: options.letters }
  | fuel + 1, [], args =>
    match args with
    | first :: rest =>
      match first.toList with
      | ['-', '-'] => return { rest }
      | '-' :: c :: more => readOptionsFrom known fuel (c :: more) rest
      | _ => return { rest := args }
    | [] => return { rest := [] }

/-- Read the options of a call. -/
def Call.options (call : Call) (known : String := "") : ShellM Options :=
  readOptionsFrom known.toList (call.args.foldl (fun n a => n + a.length + 1) 1) [] call.args

/-- Whether a letter is among options. -/
def Options.has (o : Options) (letter : Char) : Bool :=
  o.letters.any fun l => l.1 == letter

end SessionHandoff.Shell
