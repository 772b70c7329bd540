import SessionHandoff.Tools.Help.Basic

/-!
# Help for waiting and for nothing
-/

set_option autoImplicit false

namespace SessionHandoff.Tools.Help

/-- What the tool that waits says about itself under its name. -/
def waiting (name : String) : String :=
  ofLines
    ["Usage: " ++ name ++ " NUMBER[SUFFIX]...",
      "  or:  " ++ name ++ " OPTION",
      "Pause for NUMBER seconds.  SUFFIX may be 's' for seconds (the default),",
      "'m' for minutes, 'h' for hours or 'd' for days.  NUMBER need not be an",
      "integer.  Given two or more arguments, pause for the amount of time",
      "specified by the sum of their values.",
      "",
      "      --help        display this help and exit",
      "      --version     output version information and exit"] ++ footer "sleep"

/-- What a tool that does nothing says about itself under its name: how that goes, and how it is
known. -/
def idle (tool outcome name : String) : String :=
  ofLines
    ["Usage: " ++ name ++ " [ignored command line arguments]",
      "  or:  " ++ name ++ " OPTION",
      "Exit with a status code indicating " ++ outcome ++ ".",
      "",
      "      --help        display this help and exit",
      "      --version     output version information and exit",
      "",
      "NOTE: your shell may have its own version of " ++ tool ++ ", which usually supersedes",
      "the version described here.  Please refer to your shell's documentation",
      "for details about the options it supports."] ++ footer tool

end SessionHandoff.Tools.Help
