import SessionHandoff.Tools.Help.Echo
import SessionHandoff.Tools.Work

/-!
# Writing arguments

`echo` writes its arguments with blanks between them. Letters at the start may ask for no line end
and for escapes; an argument with any other letter is written like the rest. Where the environment
asks for the standard there are escapes always, and letters only after one that asks for no line
end.
-/

set_option autoImplicit false

namespace SessionHandoff.Tools.Echo

/-- What the letters ask for. -/
structure Style where
  lineEnd : Bool := true
  escapes : Bool := false

/-- Read the letters before the text. -/
def readLetters (strict : Bool) (style : Style) : List String → Style × List String
  | [] => (style, [])
  | arg :: rest =>
    match arg.toList with
    | '-' :: c :: more =>
      let letters := c :: more
      if letters.any fun c => !"neE".toList.contains c then (style, arg :: rest)
      else
        let style := letters.foldl (fun style c =>
          if c = 'n' then { style with lineEnd := false }
          else if c = 'e' then { style with escapes := true }
          else { style with escapes := strict }) style
        readLetters strict style rest
    | _ => (style, arg :: rest)

/-- The digits of a number in some base at the start of a text, so many at most, and the rest. -/
def digitsAt (isDigit : Char → Bool) (most : Nat) (text : List Char) : List Char × List Char :=
  let ds := (text.take most).takeWhile isDigit
  (ds, text.drop ds.length)

/-- The octet of digits in some base. -/
def octet (base : Nat) (digits : List Char) : Char :=
  let n := (digits.filterMap Text.hexDigit?).foldl (fun n d => base * n + d) 0
  Char.ofNat (n % 256)

/-- Whether a character is an octal digit. -/
def isOctal (c : Char) : Bool :=
  '0' ≤ c && c ≤ '7'

/-- A text with its escapes resolved, and whether the output ends there. -/
def unescape : Nat → List Char → List Char × Bool
  | 0, _ | _, [] => ([], false)
  | fuel + 1, '\\' :: c :: rest =>
    let put (before : List Char) (rest : List Char) : List Char × Bool :=
      let (text, ends) := unescape fuel rest
      (before ++ text, ends)
    match c with
    | 'a' => put [Char.ofNat 7] rest
    | 'b' => put [Char.ofNat 8] rest
    | 'c' => ([], true)
    | 'e' => put [Char.ofNat 27] rest
    | 'f' => put [Char.ofNat 12] rest
    | 'n' => put ['\n'] rest
    | 'r' => put ['\r'] rest
    | 't' => put ['\t'] rest
    | 'v' => put [Char.ofNat 11] rest
    | '\\' => put ['\\'] rest
    | 'x' =>
      let (ds, after) := digitsAt (fun c => (Text.hexDigit? c).isSome) 2 rest
      if ds.isEmpty then put ['\\', 'x'] rest else put [octet 16 ds] after
    | '0' =>
      let (ds, after) := digitsAt isOctal 3 rest
      put [octet 8 ds] after
    | _ =>
      if isOctal c then
        let (ds, after) := digitsAt isOctal 3 (c :: rest)
        put [octet 8 ds] after
      else put ['\\', c] rest
  | fuel + 1, c :: rest =>
    let (text, ends) := unescape fuel rest
    (c :: text, ends)

/-- The arguments as a text. -/
def text (style : Style) : List String → List Char × Bool
  | [] => ([], false)
  | arg :: rest =>
    let (first, ends) :=
      if style.escapes then unescape (arg.length + 1) arg.toList else (arg.toList, false)
    if ends || rest.isEmpty then (first, ends)
    else
      let (others, ends) := text style rest
      (first ++ ' ' :: others, ends)

/-- The tool. -/
def program : Program := tool 1 do
  let strict := (← setting? "POSIXLY_CORRECT").isSome
  let given := (← get).process.args
  if let [arg] := given then
    if !strict && (arg = "--help" || arg = "--version") then
      (⟨"echo", Help.echo⟩ : Help.About).answer (String.ofList (arg.toList.drop 2))
  let style : Style := { escapes := strict }
  let (style, args) :=
    if strict && given.head? != some "-n" then (style, given) else readLetters strict style given
  let (out, ends) := text style args
  put out
  if style.lineEnd && !ends then put ['\n']
  return 0

end SessionHandoff.Tools.Echo
