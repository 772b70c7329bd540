import SessionHandoff.CommandLine.Arguments

/-!
# Texts about the command line

The help texts and the wordings of wrong command lines.
-/

set_option autoImplicit false

namespace SessionHandoff.CommandLine

/-- The name of the program. -/
def programName : String := "session-launch"

/-- The version of the program. -/
def programVersion : String := "0.1.0"

/-- An option that names a file, as it is shown. -/
def FileOption.shown (o : FileOption) : String :=
  "--" ++ o.label ++ " <" ++ (o.label.replace "-" "_").toUpper ++ ">"

/-- A switch, as it is shown. -/
def Switch.shown (s : Switch) : String :=
  "--" ++ s.label

/-- The wording of an error. -/
def UsageError.message : UsageError → String
  | .unknownOption a => "unexpected argument '" ++ a ++ "' found"
  | .unexpected a => "unexpected argument '" ++ a ++ "' found"
  | .missingValue o | .emptyValue o =>
    "a value is required for '" ++ o.shown ++ "' but none was supplied"
  | .repeatedFile o => "the argument '" ++ o.shown ++ "' cannot be used multiple times"
  | .repeatedSwitch s => "the argument '" ++ s.shown ++ "' cannot be used multiple times"
  | .unwantedValue name => "unexpected value for '--" ++ name ++ "' found; no more were expected"
  | .missing options =>
    "the following required arguments were not provided:" ++
      String.join (options.map fun o => "\n  " ++ o.shown)
  | .noCommand => "a command is required but none was given"
  | .unknownCommand name => "unrecognized command '" ++ name ++ "'"

/-- One line on how a command is written. -/
def usageLine (command : Option CommandName) : String :=
  match command with
  | none => "Usage: " ++ programName ++ " [OPTIONS] <COMMAND>"
  | some c =>
    "Usage: " ++ programName ++ " " ++ c.label ++ " [OPTIONS]" ++
      String.join (c.options.required.map fun o => " " ++ o.shown)

/-- The options of a set, a line each. -/
def optionLines (o : OptionSet) : String :=
  String.join ((o.required ++ o.optional).map fun f => "  " ++ f.shown ++ "\n") ++
    String.join (o.switches.map fun s => "  " ++ s.shown ++ "\n") ++
    "  -h, --help\n" ++ (if o.versioned then "  -V, --version\n" else "")

/-- The help text. -/
def helpText (command : Option CommandName) : String :=
  match command with
  | none =>
    usageLine none ++ "\n\nCommands:\n" ++
      String.join (CommandName.all.map fun c => "  " ++ c.label ++ "  " ++ c.purpose ++ "\n") ++
      "  " ++ helpCommand ++ "\n\nOptions:\n" ++ optionLines .leading
  | some c => c.purpose ++ "\n\n" ++ usageLine command ++ "\n\nOptions:\n" ++ optionLines c.options

/-- What is printed about a wrong command line. -/
def usageReport (e : UsageError) : String :=
  "error: " ++ e.message ++ "\n\n" ++ usageLine none ++ "\n\nFor more information, try '--help'.\n"

end SessionHandoff.CommandLine
