import SessionHandoff.Tools.Help.Basic

/-!
# Help for changing the environment
-/

set_option autoImplicit false

namespace SessionHandoff.Tools.Help

/-- What the tool for changing the environment says about itself under its name. -/
def environment (name : String) : String :=
  ofLines
    ["Usage: " ++ name ++ " [OPTION]... [-] [NAME=VALUE]... [COMMAND [ARG]...]",
      "Set each NAME to VALUE in the environment and run COMMAND.",
      "",
      "Mandatory arguments to long options are mandatory for short options too.",
      "  -i, --ignore-environment  start with an empty environment",
      "  -0, --null           end each output line with NUL, not newline",
      "  -u, --unset=NAME     remove variable from the environment",
      "  -C, --chdir=DIR      change working directory to DIR",
      "  -S, --split-string=S  process and split S into separate arguments;",
      "                        used to pass multiple arguments on shebang lines",
      "      --block-signal[=SIG]    block delivery of SIG signal(s) to COMMAND",
      "      --default-signal[=SIG]  reset handling of SIG signal(s) to the default",
      "      --ignore-signal[=SIG]   set handling of SIG signal(s) to do nothing",
      "      --list-signal-handling  list non default signal handling to stderr",
      "  -v, --debug          print verbose information for each processing step",
      "      --help        display this help and exit",
      "      --version     output version information and exit",
      "",
      "A mere - implies -i.  If no COMMAND, print the resulting environment.",
      "",
      "SIG may be a signal name like 'PIPE', or a signal number like '13'.",
      "Without SIG, all known signals are included.  Multiple signals can be",
      "comma-separated.  An empty SIG argument is a no-op.",
      "",
      "Exit status:",
      "  125  if the env command itself fails",
      "  126  if COMMAND is found but cannot be invoked",
      "  127  if COMMAND cannot be found",
      "  -    the exit status of COMMAND otherwise"] ++ footer "env"

end SessionHandoff.Tools.Help
