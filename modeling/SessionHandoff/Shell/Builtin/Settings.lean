import SessionHandoff.Shell.Builtin.Call

/-!
# Variables, options and aliases

The builtin commands that change what a shell knows: variables and what they are marked as, the
options, the arguments, the aliases, and how far the options of the arguments have been read.
-/

set_option autoImplicit false

namespace SessionHandoff.Shell

/-! ## Variables -/

/-- Write variables in the order of their names. -/
def emitVariables (before : String) (shown : Variable → Bool) : ShellM Nat := do
  let s ← get
  for v in (s.vars.filter shown).mergeSort fun a b => precedes a.name b.name do
    let value := match v.value? with
      | some value => "=" ++ singleQuoted value
      | none => ""
    emit (before ++ v.name ++ value ++ "\n")
  return 0

/-- Mark a variable, which is set if the argument is an assignment. -/
def markVariable (mark : Variable → Variable) (argument : String) : ShellM Unit := do
  let (name, value?) := splitAssignment argument
  if !isName name.toList then fail (name ++ ": bad variable name")
  match value? with
  | some value => assign name value
  | none => pure ()
  let s ← get
  set (s.withVariable (mark ((s.lookup? name).getD { name })))

/-- Mark variables, or write those that are marked. -/
def markVariables (mark : Variable → Variable) (isMarked : Variable → Bool) : Builtin :=
  fun call => do
    let options ← call.options "p"
    if options.has 'p' || options.rest.isEmpty then emitVariables (call.name ++ " ") isMarked
    else
      options.rest.forM (markVariable mark)
      return 0

/-- Mark variables for export. -/
def exportVariables : Builtin :=
  markVariables (fun v => { v with exported := true }) Variable.exported

/-- Mark variables that cannot be changed any more. -/
def protect : Builtin :=
  markVariables (fun v => { v with readOnly := true }) Variable.readOnly

/-- Make variables local to the call that is run. -/
def declareLocal : Builtin := fun call => do
  if (← get).locals.isEmpty then fail "not in a function"
  call.args.forM fun a => makeLocal a
  return 0

/-- Forget variables or functions. -/
def unset : Builtin := fun call => do
  let options ← call.options "vf"
  for name in options.rest do
    if (options.letters.getLast?.map (·.1)) = some 'f' then
      modify fun s => { s with functions := s.functions.filter fun f => f.1 != name }
    else forget (splitAssignment name).1
  return 0

/-! ## Options -/

/-- The names of the options and their letters. The last two have no letters that can be written. -/
def optionNames : List (String × Char) :=
  [("errexit", 'e'), ("noglob", 'f'), ("ignoreeof", 'I'), ("interactive", 'i'), ("monitor", 'm'),
    ("noexec", 'n'), ("stdin", 's'), ("xtrace", 'x'), ("verbose", 'v'), ("vi", 'V'), ("emacs", 'E'),
    ("noclobber", 'C'), ("allexport", 'a'), ("notify", 'b'), ("nounset", 'u'), ("privileged", 'p'),
    ("nolog", Char.ofNat 1), ("debug", Char.ofNat 2)]

/-- Set or clear an option. -/
def setOption (letter : Char) (value : Bool) : ShellM Unit :=
  modify fun s =>
    let others := s.options.filter (· != letter)
    { s with
      options := if value then letter :: others else others
      undecided := s.undecided.filter (· != letter) }

/-- Set or clear the option of a letter. Of the two for editors one clears the other. -/
def setLetter (value : Bool) (letter : Char) : ShellM Unit := do
  if ' ' < letter && (optionNames.map (·.2)).contains letter then
    setOption letter value
    if value && letter = 'V' then setOption 'E' false
    if value && letter = 'E' then setOption 'V' false
  else fail ("Illegal option -" ++ String.singleton letter)

/-- Write how the options are set, for reading or as commands. -/
def emitOptions (forReading : Bool) : ShellM Unit := do
  let s ← get
  if forReading then emit "Current option settings\n"
  for (name, letter) in optionNames do
    let isSet := s.options.contains letter || s.undecided.contains letter
    emit (if forReading then
        name ++ String.ofList (List.replicate (16 - name.length) ' ') ++
          (if isSet then "on\n" else "off\n")
      else "set " ++ (if isSet then "-o " else "+o ") ++ name ++ "\n")

/-- Set or clear the option of a name; without a name, write how they are set. -/
def setNamed (value : Bool) : Option String → ShellM Unit
  | none => emitOptions value
  | some name =>
    match optionNames.lookup name with
    | some letter => setOption letter value
    | none => fail ("Illegal option -o " ++ name)

/-- Set options by letters, of which some take a name from the arguments. -/
def setLetters (value : Bool) : List Char → List String → ShellM (List String)
  | [], args => return args
  | c :: rest, args => do
    if c = 'o' then
      setNamed value args.head?
      setLetters value rest (args.drop 1)
    else
      setLetter value c
      setLetters value rest args

/-- Job control needs a terminal, which there is none. -/
def dropJobControl : ShellM Unit := do
  if ← hasOption 'm' then
    complain "can't access tty; job control turned off"
    setOption 'm' false

/-- Set options from arguments, so many at most. Returns the arguments that are left, if they are to
replace those of the shell. -/
def setOptions : Nat → List String → ShellM (Option (List String))
  | 0, _ => return none
  | fuel + 1, args => do
    match args with
    | [] => return none
    | first :: rest =>
      match first.toList with
      | ['-'] =>
        setOption 'x' false
        setOption 'v' false
        return if rest.isEmpty then none else some rest
      | ['-', '-'] => return some rest
      | '-' :: letters => setOptions fuel (← setLetters true letters rest)
      | '+' :: letters => setOptions fuel (← setLetters false letters rest)
      | _ => return some args

/-- Replace the arguments of the shell. -/
def setArguments (args : List String) : ShellM Unit := do
  fitLength args.length maxPositional
  spend (args.length / 8)
  modify fun s => { s with positional := args, optionsRead := {} }

/-- Set options and arguments, or write the variables. -/
def setBuiltin : Builtin := fun call => do
  if call.args.isEmpty then emitVariables "" fun v => v.value?.isSome
  else
    let args? ← setOptions (call.args.length + 1) call.args
    dropJobControl
    if let some args := args? then setArguments args
    return 0

/-- Drop arguments of the shell. -/
def shift : Builtin := fun call => do
  let n ← match call.args with
    | [] => pure 1
    | a :: _ => number a
  let s ← get
  if s.positional.length < n then fail "can't shift that many"
  set { s with positional := s.positional.drop n, optionsRead := {} }
  return 0

/-! ## Aliases -/

/-- An alias as it is written. -/
def aliasText (a : String × String) : String :=
  a.1 ++ "=" ++ singleQuoted a.2 ++ "\n"

/-- Aliases with one changed or added. -/
def putAlias (name value : String) : List (String × String) → List (String × String)
  | [] => [(name, value)]
  | a :: rest => if a.1 == name then (name, value) :: rest else a :: putAlias name value rest

/-- Set aliases, or write them. -/
def setAliases : Builtin := fun call => do
  let s ← get
  if call.args.isEmpty then
    for a in s.aliases.mergeSort fun a b => row a.1 ≤ row b.1 do
      emit (aliasText a)
    return 0
  let mut status := 0
  for arg in call.args do
    let (name, value?) := splitAssignment arg
    match if name.isEmpty then none else value? with
    | some value => modify fun s => { s with aliases := putAlias name value s.aliases }
    | none =>
      match (← get).aliases.lookup arg with
      | some value => emit (aliasText (arg, value))
      | none =>
        say ("alias: " ++ arg ++ " not found\n")
        status := 1
  return status

/-- Forget aliases. -/
def unalias : Builtin := fun call => do
  let options ← call.options "a"
  if options.has 'a' then
    modify fun s => { s with aliases := [] }
    return 0
  let mut status := 0
  for name in options.rest do
    if ((← get).aliases.lookup name).isNone then
      say ("unalias: " ++ name ++ " not found\n")
      status := 1
    modify fun s => { s with aliases := s.aliases.filter fun a => a.1 != name }
  return status

/-! ## Options of arguments -/

/-- What was read of the options of arguments. -/
structure OptionRead where
  letter : Char := '?'
  isDone : Bool := false
  /-- The number of arguments that were passed. -/
  passed : Nat
  offset? : Option Nat := none

/-- Set the variable for the argument of an option, or forget it. -/
def noteOptionArgument : Option String → ShellM Unit
  | some value => assign "OPTARG" value
  | none => forget "OPTARG"

/-- Read the next option. -/
def readOption (known : List Char) (args : List String) (start : OptionsRead) :
    ShellM OptionRead := do
  let before := start.index - 1
  let quiet := known.head? = some ':'
  let left : List Char := match start.offset? with
    | some offset => if before = 0 then [] else ((args.getD (before - 1) "").toList.drop offset)
    | none => []
  let (text, passed, offset) ← (do
    if !left.isEmpty then return (left, before, start.offset?.getD 0)
    else
      match (args.getD before "").toList with
      | '-' :: c :: rest => return (c :: rest, before + 1, 1)
      | _ => return ([], before, 0) : ShellM (List Char × Nat × Nat))
  match text with
  | [] => return { isDone := true, passed }
  | c :: rest =>
    if offset = 1 && text = ['-'] then return { isDone := true, passed }
    let offset? := if rest.isEmpty then none else some (offset + 1)
    let after := known.dropWhile (· != c)
    if after.isEmpty || c = ':' then
      if quiet then noteOptionArgument (some (String.singleton c))
      else
        say ("Illegal option -" ++ String.singleton c ++ "\n")
        noteOptionArgument none
      return { passed, offset? }
    if after[1]? ≠ some ':' then
      noteOptionArgument (some "")
      return { letter := c, passed, offset? }
    if !rest.isEmpty then
      noteOptionArgument (some (String.ofList rest))
      return { letter := c, passed }
    match args[passed]? with
    | some value =>
      noteOptionArgument (some value)
      return { letter := c, passed := passed + 1 }
    | none =>
      if quiet then noteOptionArgument (some (String.singleton c))
      else
        say ("No arg for -" ++ String.singleton c ++ " option\n")
        noteOptionArgument none
      return { letter := if quiet then ':' else '?', passed }

/-- Read the next option of the arguments of the shell, or of others. -/
def getopts : Builtin := fun call => do
  match (← call.options).rest with
  | known :: name :: rest =>
    let s ← get
    let args := if rest.isEmpty then s.positional else rest
    let start := if s.optionsRead.index > args.length + 1 then {} else s.optionsRead
    let r ← readOption known.toList args start
    let s ← get
    let index := r.passed + 1
    let old := (s.lookup? "OPTIND").getD { name := "OPTIND" }
    if old.readOnly then fail "OPTIND: is read only"
    set (s.withVariable { old with value? := some (Text.decimalString index) })
    assignNamed name (String.singleton r.letter)
    modify fun s => { s with optionsRead := ⟨index, r.offset?⟩ }
    return if r.isDone then 1 else 0
  | _ => fail "Usage: getopts optstring var [arg...]"

end SessionHandoff.Shell
