import SessionHandoff.Tools.Help.Basic

/-!
# Help for changing the niceness
-/

set_option autoImplicit false

namespace SessionHandoff.Tools.Help

/-- What the tool for changing the niceness says about itself under its name. -/
def niceness (name : String) : String :=
  ofLines
    ["Usage: " ++ name ++ " [OPTION] [COMMAND [ARG]...]",
      "Run COMMAND with an adjusted niceness, which affects process scheduling.",
      "With no COMMAND, print the current niceness.  Niceness values range from",
      "-20 (most favorable to the process) to 19 (least favorable to the process).",
      "",
      "Mandatory arguments to long options are mandatory for short options too.",
      "  -n, --adjustment=N   add integer N to the niceness (default 10)",
      "      --help        display this help and exit",
      "      --version     output version information and exit",
      "",
      "NOTE: your shell may have its own version of nice, which usually supersedes",
      "the version described here.  Please refer to your shell's documentation",
      "for details about the options it supports.",
      "",
      "Exit status:",
      "  125  if the nice command itself fails",
      "  126  if COMMAND is found but cannot be invoked",
      "  127  if COMMAND cannot be found",
      "  -    the exit status of COMMAND otherwise"] ++ footer "nice"

end SessionHandoff.Tools.Help
