import SessionHandoff.Characters.Charset
import SessionHandoff.Text.Digits

/-!
# Quoted names

How tools write the names they talk about. `shellQuoted` writes a name as a shell reads it: as it
is where nothing in it is special, between double quotes where only a single quote is, otherwise
between single quotes with escapes between quotes of their own. `quoted` always writes quotes, the
single ones of ASCII or those of the charset, and backslashes. Both are for octet texts; octets that
show nothing are written as numbers.
-/

set_option autoImplicit false

namespace SessionHandoff.Tools

open Characters (Charset)

/-- The escapes that are letters. -/
def letterEscapes : List (Nat × Char) :=
  [(7, 'a'), (8, 'b'), (9, 't'), (10, 'n'), (11, 'v'), (12, 'f'), (13, 'r')]

/-- Whether an octet can be shown. -/
def isShown (c : Char) : Bool :=
  32 ≤ c.toNat && c.toNat < 127

/-- The escape of an octet. -/
def escape (c : Char) : List Char :=
  match letterEscapes.lookup c.toNat with
  | some letter => ['\\', letter]
  | none =>
    let digits := Text.octal c.toNat
    '\\' :: List.replicate (3 - digits.length) '0' ++ digits

/-- The escapes of the octets of a code. -/
def escapes (cs : Charset) (code : Nat) : List Char :=
  (cs.octetsOf code).flatMap escape

/-- Whether a code is a character of ASCII. -/
def isCode (code : Nat) (c : Char) : Bool :=
  code = c.toNat

/-- The codes of the opening and the closing quote. -/
def quoteMarks : Charset → Nat × Nat
  | .octets => (39, 39)
  | .utf8 => (0x2018, 0x2019)

/-- A text in quotes. -/
def quoted (cs : Charset) (s : String) : String :=
  let (left, right) := quoteMarks cs
  let body := (cs.codes s.toList).flatMap fun code =>
    if code = right || isCode code '\\' then '\\' :: cs.octetsOf code
    else if cs.isKind .print code then cs.octetsOf code
    else escapes cs code
  String.ofList (cs.octetsOf left ++ body ++ cs.octetsOf right)

/-! ## For shells -/

/-- Whether a code of a name is special to a shell; some are at the start, or alone. -/
def isSpecialAt (cs : Charset) (first alone : Bool) (code : Nat) : Bool :=
  if isCode code '#' || isCode code '~' then first
  else if isCode code '{' || isCode code '}' then alone
  else !cs.isKind .print code || " !\"$&'()*:;<=>?[\\^|".toList.any (isCode code) || code = 96

/-- Whether a code of a name means the same between double quotes. -/
def isPlainAt (first : Bool) (code : Nat) : Bool :=
  code < 128 && (Char.ofNat code).isAlphanum || " %'+,-./:@]_".toList.any (isCode code) ||
    first && (isCode code '#' || isCode code '~')

/-- A text between single quotes, and whether an escape is still open at its end. A text may begin
while an escape is open. -/
def quotedFrom (cs : Charset) : Bool → List Nat → List Char × Bool
  | isOpen, [] => ([], isOpen)
  | isOpen, code :: rest =>
    if isCode code '\'' then
      let (text, final) := quotedFrom cs false rest
      ('\'' :: '\\' :: '\'' :: '\'' :: text, final)
    else if cs.isKind .print code then
      let (text, final) := quotedFrom cs false rest
      ((if isOpen then ['\'', '\''] else []) ++ cs.octetsOf code ++ text, final)
    else
      let (text, final) := quotedFrom cs true rest
      ((if isOpen then [] else ['\'', '$', '\'']) ++ escapes cs code ++ text, final)

/-- A name in quotes as a shell reads it. A name with a single quote is gone through twice, and the
second time begins where the first time ended. -/
def shellQuotedAlways (cs : Charset) (s : String) : String :=
  match cs.codes s.toList with
  | [] => "''"
  | first :: rest =>
    let codes := first :: rest
    let hasQuote := s.toList.contains '\''
    if hasQuote && isPlainAt true first && rest.all (isPlainAt false) then "\"" ++ s ++ "\""
    else
      let (once, isOpen) := quotedFrom cs false codes
      let body := if hasQuote then (quotedFrom cs isOpen codes).1 else once
      String.ofList ('\'' :: body ++ ['\''])

/-- A name as a shell reads it, in quotes only where something in it is special. -/
def shellQuoted (cs : Charset) (s : String) : String :=
  match cs.codes s.toList with
  | [] => "''"
  | first :: rest =>
    if isSpecialAt cs true rest.isEmpty first || rest.any (isSpecialAt cs false false) then
      shellQuotedAlways cs s
    else s

end SessionHandoff.Tools
