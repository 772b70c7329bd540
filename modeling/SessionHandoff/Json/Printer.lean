import SessionHandoff.Json.Value

/-!
# Printing JSON values

Values are printed compactly: no space between tokens, object members in the order they stand in,
every character of a string raw except quotes, backslashes and control characters.
-/

set_option autoImplicit false

namespace SessionHandoff.Json

/-- The digit character of a number below sixteen, with small letters. -/
def hexChar (n : Nat) : Char := Nat.digitChar n

/-- One character inside quotes. -/
def printChar (c : Char) : List Char :=
  if c = '"' then ['\\', '"']
  else if c = '\\' then ['\\', '\\']
  else if c.toNat = 8 then ['\\', 'b']
  else if c.toNat = 12 then ['\\', 'f']
  else if c = '\n' then ['\\', 'n']
  else if c = '\r' then ['\\', 'r']
  else if c = '\t' then ['\\', 't']
  else if c.toNat < 0x20 then ['\\', 'u', '0', '0', hexChar (c.toNat / 16), hexChar (c.toNat % 16)]
  else [c]

/-- A string in quotes. -/
def printText (s : String) : List Char :=
  '"' :: s.toList.flatMap printChar ++ ['"']

/-- A number. A double is printed as an exact decimal with an exponent. -/
def printNumber : Number → List Char
  | .integer n _ => Text.signedDecimal n
  | .double x =>
    if 0 ≤ x.exponent then
      Text.signedDecimal (x.significand * (1 <<< x.exponent.toNat : Nat)) ++ ['e', '0']
    else
      Text.signedDecimal (x.significand * Nat.pow 5 (-x.exponent).toNat) ++ 'e' ::
        Text.signedDecimal x.exponent

mutual

/-- The text of a value. -/
def print : Json → List Char
  | .null => ['n', 'u', 'l', 'l']
  | .flag true => ['t', 'r', 'u', 'e']
  | .flag false => ['f', 'a', 'l', 's', 'e']
  | .number n => printNumber n
  | .text s => printText s
  | .array items => '[' :: printItems items ++ [']']
  | .object members => '\x7b' :: printMembers members ++ ['}']

/-- The items of an array with commas between them. -/
def printItems : List Json → List Char
  | [] => []
  | [v] => print v
  | v :: rest => print v ++ ',' :: printItems rest

/-- The members of an object with commas between them. -/
def printMembers : List (String × Json) → List Char
  | [] => []
  | [(key, v)] => printText key ++ ':' :: print v
  | (key, v) :: rest => printText key ++ ':' :: print v ++ ',' :: printMembers rest

end

/-- The bytes of the text of a value. -/
def toBytes (v : Json) : Bytes :=
  Utf8.encode (print v)

end SessionHandoff.Json
