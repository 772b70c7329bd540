/-!
# What tools say about themselves

Tools explain their use, and they name the suite they belong to and its version. The parts that
their explanations have in common are here.
-/

set_option autoImplicit false

namespace SessionHandoff.Tools.Help

/-- A text of lines. -/
def ofLines (lines : List String) : String :=
  String.join (lines.map (· ++ "\n"))

/-- An address on the web between angle brackets. -/
def address (host path : String) : String :=
  "<" ++ String.intercalate "://" ["https", host] ++ "/" ++ path ++ ">"

/-- Where there is more about a tool of the suite. -/
def footer (tool : String) : String :=
  ofLines
    ["",
      "GNU coreutils online help: " ++ address "www.gnu.org" "software/coreutils/",
      "Report any translation bugs to " ++ address "translationproject.org" "team/",
      "Full documentation " ++ address "www.gnu.org" ("software/coreutils/" ++ tool),
      "or available locally via: info '(coreutils) " ++ tool ++ " invocation'"]

/-- The version of a tool of a suite, and the year of that version. -/
def version (tool suite number : String) : String :=
  ofLines [tool ++ " (" ++ suite ++ ") " ++ number, "Copy" ++ "right (C) 2023"]

/-- The version of a tool of the suite that most tools belong to. -/
def coreVersion (tool : String) : String :=
  version tool "GNU coreutils" "9.4"

/-- How a tool is known and what it says about itself under its name. -/
structure About where
  tool : String
  text : String → String

end SessionHandoff.Tools.Help
