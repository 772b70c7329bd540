/-!
# Arguments of the command line

A command line names one of four commands. Each command has options that name files and switches;
the option that names the settings file may stand on either side of the command. Every option is
given once at each side, as one argument with an equals sign or as two arguments.

Arguments are read from left to right. The value of an option in two arguments is judged when the
next option is met or the arguments end, so a request for help that stands first is answered first.
-/

set_option autoImplicit false

namespace SessionHandoff.CommandLine

/-! ## Vocabulary -/

/-- The commands. -/
inductive CommandName where
  | encrypt | decrypt | inspect | launch
deriving DecidableEq, Repr

/-- An option that names a file. -/
inductive FileOption where
  | settings | profile | secretOut | out | secret
deriving DecidableEq, Repr

/-- An option that has no value. -/
inductive Switch where
  | strict | strictLimits
deriving DecidableEq, Repr

namespace CommandName

/-- All commands. -/
def all : List CommandName := [.encrypt, .decrypt, .inspect, .launch]

/-- The name of a command. -/
def label : CommandName → String
  | .encrypt => "encrypt"
  | .decrypt => "decrypt"
  | .inspect => "inspect"
  | .launch => "launch"

/-- The command with a name. -/
def ofLabel? (s : String) : Option CommandName :=
  all.find? fun c => c.label == s

/-- Every command is found by its name. -/
theorem ofLabel?_label (c : CommandName) : ofLabel? c.label = some c := by
  cases c <;> decide

/-- What a command does. -/
def purpose : CommandName → String
  | .encrypt => "Exchange the password of a profile for a key"
  | .decrypt => "Check that a profile and its ciphertext give the password back"
  | .inspect => "Print a profile without its secrets"
  | .launch => "Start the session of a profile and wait for its end"

end CommandName

/-- The name of an option. -/
def FileOption.label : FileOption → String
  | .settings => "config"
  | .profile => "profile"
  | .secretOut => "secret-out"
  | .out => "out"
  | .secret => "secret"

/-- The name of a switch. -/
def Switch.label : Switch → String
  | .strict => "strict"
  | .strictLimits => "strict-limits"

/-- The word that asks for help in place of a command. -/
def helpCommand : String := "help"

/-- The options known on one side of the command. -/
structure OptionSet where
  required : List FileOption := []
  optional : List FileOption := [.settings]
  switches : List Switch := []
  /-- Whether the version can be asked for. -/
  versioned : Bool := false
deriving DecidableEq, Repr

/-- The options before the command. -/
def OptionSet.leading : OptionSet := { versioned := true }

/-- The options after a command. -/
def CommandName.options : CommandName → OptionSet
  | .encrypt => { required := [.profile, .secretOut], optional := [.settings, .out] }
  | .decrypt => { required := [.profile, .secret] }
  | .inspect => { required := [.profile], switches := [.strict] }
  | .launch => { required := [.profile], switches := [.strictLimits] }

namespace OptionSet

/-- The option with a name. -/
def file? (o : OptionSet) (name : String) : Option FileOption :=
  (o.required ++ o.optional).find? fun f => f.label == name

/-- The switch with a name. -/
def switch? (o : OptionSet) (name : String) : Option Switch :=
  o.switches.find? fun s => s.label == name

end OptionSet

/-! ## Outcomes -/

/-- What is wrong with a command line. -/
inductive UsageError where
  | unknownOption (argument : String)
  | unexpected (argument : String)
  | missingValue (option : FileOption)
  | emptyValue (option : FileOption)
  | repeatedFile (option : FileOption)
  | repeatedSwitch (switch : Switch)
  | unwantedValue (name : String)
  | missing (options : List FileOption)
  | noCommand
  | unknownCommand (name : String)
deriving DecidableEq, Repr

/-- Why a command line asks for no command. -/
inductive Stop where
  | usage (e : UsageError)
  | help (command : Option CommandName)
  | version
deriving DecidableEq, Repr

/-- A command with its files and switches. -/
inductive Command where
  | encrypt (profile secretOut : String) (out : Option String)
  | decrypt (profile secret : String)
  | inspect (profile : String) (strict : Bool)
  | launch (profile : String) (strictLimits : Bool)
deriving DecidableEq, Repr

/-- What a command line asks for. -/
structure Request where
  /-- The settings file, if one is named. -/
  settings : Option String
  command : Command
deriving DecidableEq, Repr

/-- The paths that a request names. -/
def Request.paths (r : Request) : List String :=
  r.settings.toList ++
    match r.command with
    | .encrypt profile secretOut out => profile :: secretOut :: out.toList
    | .decrypt profile secret => [profile, secret]
    | .inspect profile _ => [profile]
    | .launch profile _ => [profile]

/-! ## Reading one side -/

/-- The shape of an argument. -/
inductive Shape where
  /-- Two dashes alone: no options follow. -/
  | escape
  | long (name : String) (value : Option String)
  | short (first : Char)
  | plain
deriving DecidableEq, Repr

/-- The name and value of an option as it is written after two dashes. -/
def splitLong (text : List Char) : Shape :=
  let name := text.takeWhile (· != '=')
  match text.drop name.length with
  | [] => .long (String.ofList name) none
  | _ :: value => .long (String.ofList name) (some (String.ofList value))

/-- The shape of an argument. A single dash is a plain one. -/
def shapeOf (argument : String) : Shape :=
  match argument.toList with
  | ['-', '-'] => .escape
  | '-' :: '-' :: text => splitLong text
  | '-' :: c :: _ => .short c
  | _ => .plain

/-- What has been read on one side of the command. -/
structure Given where
  files : List (FileOption × String) := []
  switches : List Switch := []
  /-- An option whose value comes next or has not been judged yet. -/
  pending : Option (FileOption × Option String) := none
  /-- Whether options have ended. -/
  escaped : Bool := false
deriving DecidableEq, Repr

namespace Given

/-- The value of an option. -/
def file? (g : Given) (o : FileOption) : Option String :=
  g.files.lookup o

/-- Whether the next argument is the value of an option. -/
def isWaiting (g : Given) : Bool :=
  match g.pending with
  | some (_, none) => true
  | _ => false

/-- Accept a value: it is not empty and the option was not given before. -/
def accept (g : Given) (o : FileOption) (value : String) : Except Stop Given :=
  if (g.file? o).isSome then .error (.usage (.repeatedFile o))
  else if value.isEmpty then .error (.usage (.emptyValue o))
  else .ok { g with files := g.files ++ [(o, value)] }

/-- Judge the pending option. -/
def settle (g : Given) : Except Stop Given :=
  match g.pending with
  | none => .ok g
  | some (o, none) => .error (.usage (.missingValue o))
  | some (o, some value) => accept { g with pending := none } o value

/-- Take an option with a name and perhaps a value. The second argument is the command whose options
are known, if one has been named. -/
def takeLong (g : Given) (command : Option CommandName) (known : OptionSet) (name : String)
    (value : Option String) : Except Stop Given :=
  match known.file? name with
  | some o => do
    let g ← g.settle
    match value with
    | some v => g.accept o v
    | none => pure { g with pending := some (o, none) }
  | none =>
    let asksForHelp := name = "help"
    let asksForVersion := known.versioned && name == "version"
    match known.switch? name with
    | some s =>
      if value.isSome then .error (.usage (.unwantedValue name))
      else do
        let g ← g.settle
        if g.switches.contains s then throw (.usage (.repeatedSwitch s))
        pure { g with switches := s :: g.switches }
    | none =>
      if asksForHelp ∨ asksForVersion then
        if value.isSome then .error (.usage (.unwantedValue name))
        else do
          let _ ← g.settle
          throw (if asksForHelp then .help command else .version)
      else .error (.usage (.unknownOption ("--" ++ name)))

/-- Take an option of one letter. -/
def takeShort (g : Given) (command : Option CommandName) (known : OptionSet) (letter : Char) :
    Except Stop Given :=
  if letter = 'h' then do
    let _ ← g.settle
    throw (.help command)
  else if known.versioned ∧ letter = 'V' then do
    let _ ← g.settle
    throw .version
  else .error (.usage (.unknownOption (String.ofList ['-', letter])))

/-- Take one argument. -/
def take (g : Given) (command : Option CommandName) (known : OptionSet) (argument : String) :
    Except Stop Given :=
  if g.escaped then .error (.usage (.unexpected argument))
  else
    match shapeOf argument with
    | .escape => .ok { g with escaped := true }
    | .long name value => g.takeLong command known name value
    | .short letter => g.takeShort command known letter
    | .plain =>
      match g.pending with
      | some (o, none) => .ok { g with pending := some (o, some argument) }
      | _ => .error (.usage (.unexpected argument))

end Given

/-! ## Reading the whole -/

/-- The command of what was read after its name, if all that it needs was given. -/
def commandOf (name : CommandName) (g : Given) : Except Stop Command :=
  match name, g.file? .profile with
  | .encrypt, some profile =>
    match g.file? .secretOut with
    | some secretOut => .ok (.encrypt profile secretOut (g.file? .out))
    | none => .error missing
  | .decrypt, some profile =>
    match g.file? .secret with
    | some secret => .ok (.decrypt profile secret)
    | none => .error missing
  | .inspect, some profile => .ok (.inspect profile (g.switches.contains .strict))
  | .launch, some profile => .ok (.launch profile (g.switches.contains .strictLimits))
  | _, none => .error missing
where
  /-- The options that were left out. -/
  missing : Stop := .usage (.missing (name.options.required.filter fun o => (g.file? o).isNone))

/-- Read what stands after the name of a command. -/
def readTrailing (name : CommandName) (arguments : List String) :
    Except Stop (Given × Command) := do
  let g ← arguments.foldlM (fun g a => Given.take g (some name) name.options a) {}
  let g ← g.settle
  let command ← commandOf name g
  return (g, command)

/-- What is shown for the words after the request for help. -/
def helpFor (words : List String) : Stop :=
  match words with
  | [] => .help none
  | [word] =>
    if word = helpCommand then .help none
    else
      match CommandName.ofLabel? word with
      | some name => .help (some name)
      | none => .usage (.unknownCommand word)
  | word :: next :: _ =>
    if word = helpCommand ∨ (CommandName.ofLabel? word).isSome then .usage (.unknownCommand next)
    else .usage (.unknownCommand word)

/-- What an argument before the command is. -/
inductive LeadingWord where
  | help
  | command (name : CommandName)
  | option
deriving DecidableEq, Repr

/-- What the next argument is when `g` was given so far. The value of an option is no command, and
after options have ended nothing is. -/
def Given.leadingWord (g : Given) (argument : String) : LeadingWord :=
  if g.escaped || g.isWaiting then .option
  else if argument = helpCommand then .help
  else
    match CommandName.ofLabel? argument with
    | some name => .command name
    | none => .option

/-- Read arguments when `g` was given so far. -/
def readLeading (g : Given) : List String → Except Stop Request
  | [] => do
    let _ ← g.settle
    throw (.usage .noCommand)
  | argument :: rest =>
    match g.leadingWord argument with
    | .help => .error (helpFor rest)
    | .command name => do
      let (after, command) ← readTrailing name rest
      let before ← g.settle
      return ⟨(after.file? .settings).orElse fun _ => before.file? .settings, command⟩
    | .option =>
      match g.take none .leading argument with
      | .ok g' => readLeading g' rest
      | .error stop => .error stop

/-- What a command line asks for. -/
def Request.ofArguments (arguments : List String) : Except Stop Request :=
  readLeading {} arguments

end SessionHandoff.CommandLine
