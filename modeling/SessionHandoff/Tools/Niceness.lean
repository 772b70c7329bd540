import SessionHandoff.Tools.HandOver
import SessionHandoff.Tools.Help.Niceness

/-!
# Programs with less priority

`nice` adds something to its nice value and becomes a program; without a program it writes its nice
value. What is added may stand behind a dash, or be the value of an option; the last one counts.
-/

set_option autoImplicit false

namespace SessionHandoff.Tools.Niceness

/-- The options. -/
def options : OptionTable where
  letters := [('n', .value)]
  words := [⟨"adjustment", .value, "n"⟩]

/-- Whether an argument is a number behind a dash. -/
def isNumber (arg : String) : Bool :=
  match arg.toList with
  | '-' :: '-' :: c :: _ | '-' :: '+' :: c :: _ | '-' :: c :: _ => c.isDigit
  | _ => false

/-- Read the arguments: what is to be added, and what is to be run. -/
def readOperands : Nat → Option String → List String → ToolM (Option String × List String)
  | 0, given?, args => return (given?, args)
  | fuel + 1, given?, args => do
    match args with
    | arg :: rest =>
      if isNumber arg then readOperands fuel (some (String.ofList (arg.toList.drop 1))) rest
      else
        match options.explained.step args with
        | .options given rest =>
          let mut given? := given?
          for o in given do
            match o with
            | .option key value =>
              (⟨"nice", Help.niceness⟩ : Help.About).answer key
              given? := some value
            | .wrong reason => misuse reason
          readOperands fuel given? rest
        | .operand arg rest => return (given?, arg :: rest)
        | .done operands => return (given?, operands)
    | [] => return (given?, [])

/-- The greatest number that makes a difference when it is added. -/
def widest : Int := 39

/-- The number that a text says. -/
def number? (text : String) : Option Int :=
  let body := text.toList.dropWhile fun c => c = ' ' || (9 ≤ c.toNat && c.toNat ≤ 13)
  match body with
  | '-' :: ds => (Text.natural? ds).map fun n => -(n : Int)
  | '+' :: ds => (Text.natural? ds).map Int.ofNat
  | ds => (Text.natural? ds).map Int.ofNat

/-- Add to the nice value of the process. -/
def adjust (n : Int) : ToolM Unit := do
  let s ← get
  let p := s.process
  match p.limits.setNice (p.limits.nice + max (-widest) (min widest n)) with
  | (none, limits) => set { s with process := { p with limits } }
  | (some e, _) =>
    let complaint := ": cannot set niceness: " ++ e.description ++ "\n"
    match ← onWorld fun p => p.write 2 (Octets.bytesOf (p.name ++ complaint)) with
    | .ok () => return
    | .error _ => leave s.failure

/-- The tool, on a machine with the given programs. -/
def program (programs : ProgramTable) : Program := tool 125 do
  let args := (← get).process.args
  let (given?, operands) ← readOperands (args.length + 1) none args
  let n ← match given? with
    | none => pure 10
    | some text =>
      match number? text with
      | some n => pure n
      | none => fail ("invalid adjustment " ++ (← inQuotes text))
  match operands with
  | [] =>
    if given?.isSome then misuse "a command must be given with an adjustment"
    putString (Text.signedString (← get).process.limits.nice ++ "\n")
    return 0
  | name :: args =>
    adjust n
    handOver programs { (← get).process with name, args }

end SessionHandoff.Tools.Niceness
