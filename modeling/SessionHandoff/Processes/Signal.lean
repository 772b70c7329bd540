import SessionHandoff.Children.Table
import SessionHandoff.Text.Digits

/-!
# Signals

The signals of the system: their names, what a shell says about a process that one of them ended,
and what they do to a process that does not expect them.
-/

set_option autoImplicit false

namespace SessionHandoff.Signal

/-- The number of signals. -/
def count : Nat := 64

/-- The names of the first signals, which start at one, and their descriptions. A signal without a
name is named by its number. -/
def table : List (String × String) :=
  [("HUP", "Hangup"), ("INT", "Interrupt"), ("QUIT", "Quit"), ("ILL", "Illegal instruction"),
    ("TRAP", "Trace/breakpoint trap"), ("ABRT", "Aborted"), ("BUS", "Bus error"),
    ("FPE", "Floating point exception"), ("KILL", "Killed"), ("USR1", "User defined signal 1"),
    ("SEGV", "Segmentation fault"), ("USR2", "User defined signal 2"), ("PIPE", "Broken pipe"),
    ("ALRM", "Alarm clock"), ("TERM", "Terminated"), ("16", "Stack fault"),
    ("CHLD", "Child exited"), ("CONT", "Continued"), ("STOP", "Stopped (signal)"),
    ("TSTP", "Stopped"), ("TTIN", "Stopped (tty input)"), ("TTOU", "Stopped (tty output)"),
    ("URG", "Urgent I/O condition"), ("XCPU", "CPU time limit exceeded"),
    ("XFSZ", "File size limit exceeded"), ("VTALRM", "Virtual timer expired"),
    ("PROF", "Profiling timer expired"), ("WINCH", "Window changed"), ("IO", "I/O possible"),
    ("PWR", "Power failure"), ("SYS", "Bad system call"), ("32", "Unknown signal 32"),
    ("33", "Unknown signal 33")]

/-- The first of the signals that are numbered among themselves. -/
def firstRealTime : Nat := 34

/-- The name of a real-time signal: the lower half is counted from the first, the upper half from
the last. -/
def realTimeName (n : Nat) : String :=
  if n = firstRealTime then "RTMIN"
  else if n = count then "RTMAX"
  else if n < 50 then "RTMIN+" ++ Text.decimalString (n - firstRealTime)
  else "RTMAX-" ++ Text.decimalString (count - n)

/-- The name of a signal; zero stands for the end of a shell. -/
def name (n : Nat) : String :=
  if n = 0 then "EXIT"
  else
    match table[n - 1]? with
    | some entry => entry.1
    | none => realTimeName n

/-- The description of a signal. -/
def description (n : Nat) : String :=
  match table[n - 1]? with
  | some entry => entry.2
  | none => "Real-time signal " ++ Text.decimalString (n - firstRealTime)

/-- The signals with names, by number. -/
def numbers : List Nat :=
  List.range (count + 1)

/-- The signal with a name, written with small or capital letters. -/
def ofName? (s : String) : Option Nat :=
  numbers.find? fun n => name n == String.ofList (s.toList.map Char.toUpper)

/-- The signal for which a process stays as it is unless it says otherwise. -/
def isHarmless (n : Nat) : Bool :=
  [0, 17, 18, 23, 28].contains n

/-- The signal that no process can expect. -/
def isCertain (n : Nat) : Bool :=
  n == 9 || n == 19

/-- What a shell says about a process that a signal ended. Of two signals it says nothing. -/
def obituary (n : Nat) : Option String :=
  if n = 2 ∨ n = 13 then none else some (description n)

/-- Broken pipe. -/
def brokenPipe : Nat := 13

/-- A fault of arithmetic. -/
def arithmetic : Nat := 8

/-- The end of a process without its consent. -/
def certainEnd : Nat := 9

/-- The first limit of time was reached. -/
def timeLimit : Nat := 24

/-- The limit of the size of files was reached. -/
def sizeLimit : Nat := 25

/-- A fault of memory. -/
def segmentation : Nat := 11

end SessionHandoff.Signal

namespace SessionHandoff

/-- The number by which a shell knows how a process ended. -/
def ExitStatus.number : ExitStatus → Nat
  | .code n => n
  | .signal n => 128 + n

end SessionHandoff
