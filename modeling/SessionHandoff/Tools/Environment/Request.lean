import SessionHandoff.Tools.Work

/-!
# What is asked of another environment

The options of `env`: what its environment is made from, in which folder and with which actions for
signals the program starts, and whether everything that is done is told.
-/

set_option autoImplicit false

namespace SessionHandoff.Tools.Environment

/-- What to do with a signal. -/
structure SignalAction where
  /-- Whether it is ignored and not given its usual action. -/
  ignores : Bool
  /-- Whether it is one of all signals, some of which have one action only. -/
  lenient : Bool
deriving DecidableEq, Repr

/-- What is asked for. -/
structure Request where
  /-- Whether the environment starts empty. -/
  empty : Bool := false
  removed : List String := []
  /-- Whether variables are written with the octet zero after them. -/
  zeros : Bool := false
  folder? : Option String := none
  /-- Whether everything that is done is told. -/
  talks : Bool := false
  /-- What to do with signals, the latest first. -/
  actions : List (Nat × SignalAction) := []
  /-- Signals and whether they are to be blocked, the latest first. -/
  masks : List (Nat × Bool) := []
  /-- Whether the signals that are ignored or blocked are listed. -/
  listsSignals : Bool := false

/-- The options. -/
def options : OptionTable where
  letters := [('C', .value), ('i', .nothing), ('S', .value), ('u', .value), ('v', .nothing),
    ('0', .nothing)] ++ "\t\n\x0b\x0c\r ".toList.map fun c => (c, .nothing)
  words := [⟨"ignore-environment", .nothing, "i"⟩, ⟨"null", .nothing, "0"⟩,
    ⟨"unset", .value, "u"⟩, ⟨"chdir", .value, "C"⟩,
    ⟨"default-signal", .perhaps "default all", "default"⟩,
    ⟨"ignore-signal", .perhaps "ignore all", "ignore"⟩,
    ⟨"block-signal", .perhaps "block all", "block"⟩,
    ⟨"list-signal-handling", .nothing, "list"⟩, ⟨"debug", .nothing, "v"⟩,
    ⟨"split-string", .value, "S"⟩]

/-- Say something that is told on request. -/
def tell (r : Request) (text : String) : ToolM Unit := do
  if r.talks then say (text ++ "\n")

end SessionHandoff.Tools.Environment
