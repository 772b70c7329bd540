import SessionHandoff.Tools.Help.Basic

/-!
# Help for writing arguments
-/

set_option autoImplicit false

namespace SessionHandoff.Tools.Help

/-- What the tool for writing arguments says about itself under its name. -/
def echo (name : String) : String :=
  ofLines
    ["Usage: " ++ name ++ " [SHORT-OPTION]... [STRING]...",
      "  or:  " ++ name ++ " LONG-OPTION",
      "Echo the STRING(s) to standard output.",
      "",
      "  -n             do not output the trailing newline",
      "  -e             enable interpretation of backslash escapes",
      "  -E             disable interpretation of backslash escapes (default)",
      "      --help        display this help and exit",
      "      --version     output version information and exit",
      "",
      "If -e is in effect, the following sequences are recognized:",
      "",
      "  \\\\      backslash",
      "  \\a      alert (BEL)",
      "  \\b      backspace",
      "  \\c      produce no further output",
      "  \\e      escape",
      "  \\f      form feed",
      "  \\n      new line",
      "  \\r      carriage return",
      "  \\t      horizontal tab",
      "  \\v      vertical tab",
      "  \\0NNN   byte with octal value NNN (1 to 3 digits)",
      "  \\xHH    byte with hexadecimal value HH (1 to 2 digits)",
      "",
      "NOTE: your shell may have its own version of echo, which usually supersedes",
      "the version described here.  Please refer to your shell's documentation",
      "for details about the options it supports.",
      "",
      "NOTE: printf(1) is a preferred alternative,",
      "which does not have issues outputting option-like strings."] ++ footer "echo"

end SessionHandoff.Tools.Help
