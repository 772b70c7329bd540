import SessionHandoff.Tools.Help.Basic

/-!
# Help for joining files
-/

set_option autoImplicit false

namespace SessionHandoff.Tools.Help

/-- What the tool for joining files says about itself under its name. -/
def concatenation (name : String) : String :=
  ofLines
    ["Usage: " ++ name ++ " [OPTION]... [FILE]...",
      "Concatenate FILE(s) to standard output.",
      "",
      "With no FILE, or when FILE is -, read standard input.",
      "",
      "  -A, --show-all           equivalent to -vET",
      "  -b, --number-nonblank    number nonempty output lines, overrides -n",
      "  -e                       equivalent to -vE",
      "  -E, --show-ends          display $ at end of each line",
      "  -n, --number             number all output lines",
      "  -s, --squeeze-blank      suppress repeated empty output lines",
      "  -t                       equivalent to -vT",
      "  -T, --show-tabs          display TAB characters as ^I",
      "  -u                       (ignored)",
      "  -v, --show-nonprinting   use ^ and M- notation, except for LFD and TAB",
      "      --help        display this help and exit",
      "      --version     output version information and exit",
      "",
      "Examples:",
      "  " ++ name ++ " f - g  Output f's contents, then standard input, then g's contents.",
      "  " ++ name ++ "        Copy standard input to standard output."] ++ footer "cat"

end SessionHandoff.Tools.Help
