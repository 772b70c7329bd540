import SessionHandoff.Text.Combining
import SessionHandoff.Text.Digits

/-!
# Structured text for people

A value that is shown to people is first a `Shown`: words, quoted texts, lists, maps and records.
It has two layouts. `Shown.inline` puts everything in one line. `Shown.pretty` puts each part in a
line of its own, indented by four more than what holds it, with a comma after it.

A quoted text escapes quotes, backslashes, a few control characters by a letter, and every other
character that is hidden or extends a grapheme by its number.
-/

set_option autoImplicit false

namespace SessionHandoff.Text

/-- One character of a quoted text. -/
def quoteChar (c : Char) : List Char :=
  if c = '"' then ['\\', '"']
  else if c = '\\' then ['\\', '\\']
  else if c = '\n' then ['\\', 'n']
  else if c = '\r' then ['\\', 'r']
  else if c = '\t' then ['\\', 't']
  else if c.toNat = 0 then ['\\', '0']
  else if isHidden c || extendsGrapheme c then
    '\\' :: 'u' :: '\x7b' :: hexadecimal c.toNat ++ ['}']
  else [c]

/-- A text in quotes. -/
def quoted (s : String) : List Char :=
  '"' :: s.toList.flatMap quoteChar ++ ['"']

/-- A value as it is shown to people. -/
inductive Shown where
  /-- A word that stands as it is. -/
  | word (s : String)
  | text (s : String)
  /-- A word with one part in parentheses. -/
  | wrapped (name : String) (part : Shown)
  | list (items : List Shown)
  | map (entries : List (Shown × Shown))
  | record (name : String) (fields : List (String × Shown))
deriving Repr

namespace Shown

/-- An optional number. -/
def optional (n : Option UInt64) : Shown :=
  match n with
  | none => .word "None"
  | some n => .wrapped "Some" (.word (decimalString n.toNat))

/-! ## In one line -/

mutual

/-- The value in one line. -/
def inline : Shown → List Char
  | .word s => s.toList
  | .text s => quoted s
  | .wrapped name part => name.toList ++ '(' :: part.inline ++ [')']
  | .list items => '[' :: inlineItems items ++ [']']
  | .map entries => '\x7b' :: inlineEntries entries ++ ['}']
  | .record name fields => name.toList ++ [' ', '\x7b', ' '] ++ inlineFields fields ++ [' ', '}']

/-- Items with commas between them. -/
def inlineItems : List Shown → List Char
  | [] => []
  | [v] => v.inline
  | v :: rest => v.inline ++ [',', ' '] ++ inlineItems rest

/-- Keys and values with commas between the pairs. -/
def inlineEntries : List (Shown × Shown) → List Char
  | [] => []
  | [(k, v)] => k.inline ++ [':', ' '] ++ v.inline
  | (k, v) :: rest => k.inline ++ [':', ' '] ++ v.inline ++ [',', ' '] ++ inlineEntries rest

/-- Named parts with commas between them. -/
def inlineFields : List (String × Shown) → List Char
  | [] => []
  | [(name, v)] => name.toList ++ [':', ' '] ++ v.inline
  | (name, v) :: rest =>
    name.toList ++ [':', ' '] ++ v.inline ++ [',', ' '] ++ inlineFields rest

end

/-! ## In many lines -/

/-- The start of a line at a depth. -/
def indent (depth : Nat) : List Char :=
  List.replicate (4 * depth) ' '

mutual

/-- The value in many lines; the first line is not indented, the others stand at the depth. -/
def prettyAt (depth : Nat) : Shown → List Char
  | .word s => s.toList
  | .text s => quoted s
  | .wrapped name part =>
    name.toList ++ ['(', '\n'] ++ indent (depth + 1) ++ part.prettyAt (depth + 1) ++ [',', '\n'] ++
      indent depth ++ [')']
  | .list [] => ['[', ']']
  | .list items => '[' :: '\n' :: prettyItems depth items ++ indent depth ++ [']']
  | .map [] => ['\x7b', '}']
  | .map entries => '\x7b' :: '\n' :: prettyEntries depth entries ++ indent depth ++ ['}']
  | .record name fields =>
    name.toList ++ [' ', '\x7b', '\n'] ++ prettyFields depth fields ++ indent depth ++ ['}']

/-- Items, each in lines of its own. -/
def prettyItems (depth : Nat) : List Shown → List Char
  | [] => []
  | v :: rest =>
    indent (depth + 1) ++ v.prettyAt (depth + 1) ++ [',', '\n'] ++ prettyItems depth rest

/-- Keys and values, each pair in lines of its own. -/
def prettyEntries (depth : Nat) : List (Shown × Shown) → List Char
  | [] => []
  | (k, v) :: rest =>
    indent (depth + 1) ++ k.prettyAt (depth + 1) ++ [':', ' '] ++ v.prettyAt (depth + 1) ++
      [',', '\n'] ++ prettyEntries depth rest

/-- Named parts, each in lines of its own. -/
def prettyFields (depth : Nat) : List (String × Shown) → List Char
  | [] => []
  | (name, v) :: rest =>
    indent (depth + 1) ++ name.toList ++ [':', ' '] ++ v.prettyAt (depth + 1) ++ [',', '\n'] ++
      prettyFields depth rest

end

/-- The value in many lines. -/
def pretty (v : Shown) : List Char :=
  v.prettyAt 0

end Shown

end SessionHandoff.Text
