import SessionHandoff.Text.Digits

/-!
# Options of tools

Tools take options: letters after a dash, several of which may stand together, and words after two
dashes, which may be cut short as long as they stay apart from others. Options may stand after
operands unless the tool or its environment asks for operands to end them; two dashes end them in
any case.

Reading arguments gives the options in the order in which they stand, up to the first that is
wrong, and the operands.
-/

set_option autoImplicit false

namespace SessionHandoff.Tools

/-- Whether an option takes a value. -/
inductive Takes where
  | nothing
  | value
  /-- A value may follow an equals sign. Without one the option has a key of its own. -/
  | perhaps (alone : String)
deriving DecidableEq, Repr

/-- An option that is a word, and the key by which it is known. -/
structure WordOption where
  word : String
  takes : Takes := .nothing
  key : String
deriving DecidableEq, Repr

/-- The options of a tool. The key of a letter is the letter. -/
structure OptionTable where
  letters : List (Char × Takes)
  words : List WordOption
deriving Repr

/-- An option that was read, or why none could be. -/
inductive GivenOption where
  | option (key : String) (value : String)
  | wrong (reason : String)
deriving DecidableEq, Repr

/-- Why a word stands for no option. -/
inductive WordFault where
  | unknown
  | ambiguous (candidates : List WordOption)
deriving Repr

/-- The arguments of a tool. -/
structure Arguments where
  options : List GivenOption := []
  operands : List String := []
deriving Repr

namespace OptionTable

/-- A table of letters without values and of words that stand for letters. -/
def simple (letters : String) (words : List (String × Char)) : OptionTable where
  letters := letters.toList.map fun c => (c, .nothing)
  words := words.map fun w => { word := w.1, key := String.singleton w.2 }

/-- The table with the options that ask a tool about itself. -/
def explained (table : OptionTable) : OptionTable :=
  { table with
    words := table.words ++ [⟨"help", .nothing, "help"⟩, ⟨"version", .nothing, "version"⟩] }

/-- The word option that a word stands for. -/
def word? (table : OptionTable) (word : String) : Except WordFault WordOption :=
  match table.words.find? fun w => w.word == word with
  | some w => .ok w
  | none =>
    match table.words.filter fun w => word.toList.isPrefixOf w.word.toList with
    | [] => .error .unknown
    | first :: others =>
      if others.all fun w => w.takes = first.takes ∧ w.key = first.key then .ok first
      else .error (.ambiguous (first :: others))

/-- Read an option that is a word, given the argument without its dashes and the arguments that
follow. -/
def readWord (table : OptionTable) (text : List Char) (rest : List String) :
    GivenOption × List String :=
  let name := text.takeWhile (· != '=')
  let value? := match text.drop name.length with
    | _ :: value => some (String.ofList value)
    | [] => none
  match table.word? (String.ofList name) with
  | .error .unknown =>
    (.wrong ("unrecognized option '--" ++ String.ofList text ++ "'"), rest)
  | .error (.ambiguous candidates) =>
    (.wrong ("option '--" ++ String.ofList text ++ "' is ambiguous; possibilities:" ++
      String.join (candidates.map fun w => " '--" ++ w.word ++ "'")), rest)
  | .ok w =>
    match w.takes, value?, rest with
    | .nothing, some _, _ =>
      (.wrong ("option '--" ++ w.word ++ "' doesn't allow an argument"), rest)
    | .value, none, [] => (.wrong ("option '--" ++ w.word ++ "' requires an argument"), rest)
    | .value, none, value :: rest => (.option w.key value, rest)
    | .nothing, none, _ => (.option w.key "", rest)
    | .perhaps alone, none, _ => (.option alone "", rest)
    | _, some value, _ => (.option w.key value, rest)

/-- Read letters, given the arguments that follow. -/
def readLetters (table : OptionTable) : List Char → List String → List GivenOption × List String
  | [], rest => ([], rest)
  | c :: more, rest =>
    let key := String.singleton c
    match table.letters.lookup c with
    | none => ([.wrong ("invalid option -- '" ++ key ++ "'")], rest)
    | some .nothing =>
      let (options, rest) := table.readLetters more rest
      (.option key "" :: options, rest)
    | some (.perhaps _) => ([.option key (String.ofList more)], rest)
    | some .value =>
      if !more.isEmpty then ([.option key (String.ofList more)], rest)
      else
        match rest with
        | value :: rest => ([.option key value], rest)
        | [] => ([.wrong ("option requires an argument -- '" ++ key ++ "'")], rest)

/-- Read letters leaves no more arguments than there were. -/
theorem length_readLetters (table : OptionTable) (letters : List Char) (rest : List String) :
    (table.readLetters letters rest).2.length ≤ rest.length := by
  induction letters generalizing rest with
  | nil => simp [readLetters]
  | cons c more ih =>
    unfold readLetters
    simp only
    split
    · exact Nat.le_refl _
    · exact ih rest
    · exact Nat.le_refl _
    · split
      · exact Nat.le_refl _
      · split <;> simp

/-- Read a word leaves no more arguments than there were. -/
theorem length_readWord (table : OptionTable) (text : List Char) (rest : List String) :
    (table.readWord text rest).2.length ≤ rest.length := by
  unfold readWord
  simp only
  split
  · exact Nat.le_refl _
  · exact Nat.le_refl _
  · split <;> simp

/-- What the first arguments are. -/
inductive Step where
  /-- Options, and what follows them. -/
  | options (given : List GivenOption) (rest : List String)
  /-- An operand, and what follows it. -/
  | operand (arg : String) (rest : List String)
  /-- There are only operands left. -/
  | done (operands : List String)

/-- Read the first arguments. -/
def step (table : OptionTable) : List String → Step
  | [] => .done []
  | arg :: rest =>
    match arg.toList with
    | ['-', '-'] => .done rest
    | '-' :: '-' :: word =>
      let r := table.readWord word rest
      .options [r.1] r.2
    | '-' :: c :: letters =>
      let r := table.readLetters (c :: letters) rest
      .options r.1 r.2
    | _ => .operand arg rest

/-- Options are followed by fewer arguments. -/
theorem length_of_step_options {table : OptionTable} {args rest : List String}
    {given : List GivenOption} (h : table.step args = .options given rest) :
    rest.length < args.length := by
  unfold step at h
  split at h
  · simp at h
  · rename_i arg others
    split at h
    · simp at h
    · simp only [Step.options.injEq] at h
      rw [← h.2]
      exact Nat.lt_succ_of_le (table.length_readWord _ _)
    · simp only [Step.options.injEq] at h
      rw [← h.2]
      exact Nat.lt_succ_of_le (table.length_readLetters _ _)
    · simp at h

/-- An operand is followed by fewer arguments. -/
theorem length_of_step_operand {table : OptionTable} {args rest : List String} {arg : String}
    (h : table.step args = .operand arg rest) : rest.length < args.length := by
  unfold step at h
  split at h
  · simp at h
  · split at h <;> simp_all

/-- Read arguments. Operands end the options on request. -/
def read (table : OptionTable) (ordered : Bool) (args : List String) : Arguments :=
  match h : table.step args with
  | .done operands => { operands }
  | .options given rest =>
    have := length_of_step_options h
    let a := table.read ordered rest
    { a with options := given ++ a.options }
  | .operand arg rest =>
    have := length_of_step_operand h
    if ordered then { operands := arg :: rest }
    else
      let a := table.read ordered rest
      { a with operands := arg :: a.operands }
termination_by args.length

end OptionTable

end SessionHandoff.Tools
