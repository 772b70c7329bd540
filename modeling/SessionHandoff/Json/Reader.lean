import SessionHandoff.Json.Tree

/-!
# Reading a JSON text

The reader takes one character at a time. Its state is what it expects next together with the stack
of arrays and objects that are open, so reading a text in two parts is the same as reading it at
once (`run_append`). A text is accepted when a value is complete and nothing is open at its end.

A reader may bound how many arrays and objects are open at once.
-/

set_option autoImplicit false

namespace SessionHandoff.Json

/-! ## States -/

/-- An array or object that is open. What it holds so far stands last first. -/
inductive Frame where
  /-- An array that waits for an item. -/
  | array (items : List Tree)
  /-- An object that waits for a key. -/
  | object (members : List (List Piece × Tree))
  /-- An object that waits for the value of a key. -/
  | member (members : List (List Piece × Tree)) (key : List Piece)
deriving Repr

/-- How far a number is read. -/
inductive NumberPhase where
  | sign | zero | whole | point | fraction | mark | markSign | exponent
deriving DecidableEq, Repr

/-- A number that is being read. Its digits stand last first. -/
structure NumberState where
  phase : NumberPhase
  negative : Bool
  whole : List Nat
  fraction : List Nat
  exponentNegative : Bool
  exponent : List Nat
deriving DecidableEq, Repr

/-- How far the next piece of a string is read. -/
inductive StringPhase where
  | plain
  | escape
  | code (value : Nat) (missing : Nat)
deriving DecidableEq, Repr

/-- A string that is being read. Its pieces stand last first. -/
structure StringState where
  phase : StringPhase
  pieces : List Piece
deriving DecidableEq, Repr

/-- What a string is read for. -/
inductive StringRole where
  | key | item
deriving DecidableEq, Repr

/-- What the reader expects. -/
inductive Mode where
  | value
  | firstItem
  | firstKey
  | nextKey
  | colon
  | literal (rest : List Char) (result : Tree)
  | number (n : NumberState)
  | string (role : StringRole) (s : StringState)
  | done (t : Tree)
deriving Repr

/-- The state of the reader. -/
structure ReaderState where
  mode : Mode
  frames : List Frame
deriving Repr

/-- The characters that may stand between tokens. -/
def isSpace (c : Char) : Bool :=
  c = ' ' || c = '\t' || c = '\n' || c = '\r'

/-! ## Numbers -/

namespace NumberState

/-- The state after the first character of a number. -/
def start? (c : Char) : Option NumberState :=
  if c = '-' then some ⟨.sign, true, [], [], false, []⟩
  else
    match Text.digit? c with
    | some 0 => some ⟨.zero, false, [0], [], false, []⟩
    | some d => some ⟨.whole, false, [d], [], false, []⟩
    | none => none

/-- The state after a character that continues the number. -/
def advance? (n : NumberState) (c : Char) : Option NumberState :=
  match n.phase, Text.digit? c with
  | .sign, some 0 => some { n with phase := .zero, whole := [0] }
  | .sign, some d => some { n with phase := .whole, whole := [d] }
  | .whole, some d => some { n with whole := d :: n.whole }
  | .point, some d => some { n with phase := .fraction, fraction := [d] }
  | .fraction, some d => some { n with fraction := d :: n.fraction }
  | .mark, some d => some { n with phase := .exponent, exponent := [d] }
  | .markSign, some d => some { n with phase := .exponent, exponent := [d] }
  | .exponent, some d => some { n with exponent := d :: n.exponent }
  | .zero, none | .whole, none =>
    if c = '.' then some { n with phase := .point }
    else if c = 'e' || c = 'E' then some { n with phase := .mark }
    else none
  | .fraction, none => if c = 'e' || c = 'E' then some { n with phase := .mark } else none
  | .mark, none =>
    if c = '+' then some { n with phase := .markSign }
    else if c = '-' then some { n with phase := .markSign, exponentNegative := true }
    else none
  | _, _ => none

/-- The text of the number, if it may end here. -/
def finish? (n : NumberState) : Option NumberText :=
  match n.phase with
  | .zero | .whole | .fraction => some ⟨n.negative, n.whole.reverse, n.fraction.reverse, none⟩
  | .exponent =>
    some ⟨n.negative, n.whole.reverse, n.fraction.reverse,
      some ⟨n.exponentNegative, n.exponent.reverse⟩⟩
  | _ => none

end NumberState

/-! ## Strings -/

/-- The character that an escape of one letter stands for. -/
def simpleEscape? (c : Char) : Option Char :=
  if c = '"' then some '"'
  else if c = '\\' then some '\\'
  else if c = '/' then some '/'
  else if c = 'b' then some (Char.ofNat 8)
  else if c = 'f' then some (Char.ofNat 12)
  else if c = 'n' then some '\n'
  else if c = 'r' then some '\r'
  else if c = 't' then some '\t'
  else none

/-- What a character does to a string that is being read. -/
inductive StringStep where
  | more (s : StringState)
  | ends (pieces : List Piece)
  | bad
deriving DecidableEq, Repr

/-- Read one character of a string. -/
def StringState.advance (s : StringState) (c : Char) : StringStep :=
  match s.phase with
  | .plain =>
    if c = '"' then .ends s.pieces.reverse
    else if c = '\\' then .more { s with phase := .escape }
    else if c.toNat < 0x20 then .bad
    else .more { s with pieces := .char c :: s.pieces }
  | .escape =>
    if c = 'u' then .more { s with phase := .code 0 3 }
    else
      match simpleEscape? c with
      | some e => .more ⟨.plain, .char e :: s.pieces⟩
      | none => .bad
  | .code value missing =>
    match Text.hexDigit? c, missing with
    | some d, 0 => .more ⟨.plain, .unit (value * 16 + d) :: s.pieces⟩
    | some d, k + 1 => .more { s with phase := .code (value * 16 + d) k }
    | none, _ => .bad

/-! ## Steps -/

/-- The state after a character that follows a complete value. -/
def afterValue (t : Tree) (frames : List Frame) (c : Char) : Option ReaderState :=
  if isSpace c then some ⟨.done t, frames⟩
  else
    match frames with
    | .array items :: rest =>
      if c = ',' then some ⟨.value, .array (t :: items) :: rest⟩
      else if c = ']' then some ⟨.done (.array (t :: items).reverse), rest⟩
      else none
    | .member members key :: rest =>
      if c = ',' then some ⟨.nextKey, .object ((key, t) :: members) :: rest⟩
      else if c = '}' then some ⟨.done (.object ((key, t) :: members).reverse), rest⟩
      else none
    | _ => none

/-- Whether one more array or object may be opened. -/
def mayOpen (bound : Option Nat) (frames : List Frame) : Bool :=
  match bound with
  | some n => frames.length < n
  | none => true

/-- The state after the first character of a value. -/
def startValue (bound : Option Nat) (frames : List Frame) (c : Char) : Option ReaderState :=
  if c = '"' then some ⟨.string .item ⟨.plain, []⟩, frames⟩
  else if c = '[' then
    if mayOpen bound frames then some ⟨.firstItem, .array [] :: frames⟩ else none
  else if c = '\x7b' then
    if mayOpen bound frames then some ⟨.firstKey, .object [] :: frames⟩ else none
  else if c = 'n' then some ⟨.literal ['u', 'l', 'l'] .null, frames⟩
  else if c = 't' then some ⟨.literal ['r', 'u', 'e'] (.flag true), frames⟩
  else if c = 'f' then some ⟨.literal ['a', 'l', 's', 'e'] (.flag false), frames⟩
  else (NumberState.start? c).map fun n => ⟨.number n, frames⟩

/-- The state after the end of a string. -/
def endString (role : StringRole) (pieces : List Piece) (frames : List Frame) :
    Option ReaderState :=
  match role, frames with
  | .item, frames => some ⟨.done (.text pieces), frames⟩
  | .key, .object members :: rest => some ⟨.colon, .member members pieces :: rest⟩
  | .key, _ => none

/-- The state after the first character of a key. -/
def startKey (frames : List Frame) (c : Char) : Option ReaderState :=
  if c = '"' then some ⟨.string .key ⟨.plain, []⟩, frames⟩ else none

/-- Read one character. -/
def ReaderState.step (bound : Option Nat) (s : ReaderState) (c : Char) : Option ReaderState :=
  match s.mode with
  | .value => if isSpace c then some s else startValue bound s.frames c
  | .firstItem =>
    if isSpace c then some s
    else if c = ']' then
      match s.frames with
      | .array items :: rest => some ⟨.done (.array items.reverse), rest⟩
      | _ => none
    else startValue bound s.frames c
  | .firstKey =>
    if isSpace c then some s
    else if c = '}' then
      match s.frames with
      | .object members :: rest => some ⟨.done (.object members.reverse), rest⟩
      | _ => none
    else startKey s.frames c
  | .nextKey => if isSpace c then some s else startKey s.frames c
  | .colon =>
    if isSpace c then some s
    else if c = ':' then some ⟨.value, s.frames⟩
    else none
  | .literal rest result =>
    match rest with
    | [] => afterValue result s.frames c
    | [last] => if c = last then some ⟨.done result, s.frames⟩ else none
    | next :: more => if c = next then some ⟨.literal more result, s.frames⟩ else none
  | .number n =>
    match n.advance? c with
    | some n' => some ⟨.number n', s.frames⟩
    | none => n.finish?.bind fun text => afterValue (.number text) s.frames c
  | .string role str =>
    match str.advance c with
    | .more str' => some ⟨.string role str', s.frames⟩
    | .ends pieces => endString role pieces s.frames
    | .bad => none
  | .done t => afterValue t s.frames c

/-- Read a text from a state. -/
def ReaderState.run (bound : Option Nat) : ReaderState → List Char → Option ReaderState
  | s, [] => some s
  | s, c :: text => (s.step bound c).bind fun s' => run bound s' text

/-- The tree, if the text may end in this state. -/
def ReaderState.finish? (s : ReaderState) : Option Tree :=
  match s.frames, s.mode with
  | [], .done t => some t
  | [], .number n => n.finish?.map .number
  | _, _ => none

/-- The state before a text. -/
def ReaderState.start : ReaderState := ⟨.value, []⟩

/-- The tree of a text. -/
def Tree.read? (bound : Option Nat) (text : List Char) : Option Tree :=
  (ReaderState.start.run bound text).bind ReaderState.finish?

/-! ## Composition -/

/-- Reading in two parts is reading at once. -/
theorem ReaderState.run_append (bound : Option Nat) (s : ReaderState) (a b : List Char) :
    s.run bound (a ++ b) = (s.run bound a).bind fun s' => s'.run bound b := by
  induction a generalizing s with
  | nil => rfl
  | cons c a ih =>
    simp only [List.cons_append, ReaderState.run]
    cases s.step bound c with
    | none => rfl
    | some s' => exact ih s'

end SessionHandoff.Json
