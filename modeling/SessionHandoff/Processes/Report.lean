import SessionHandoff.Processes.Process

/-!
# Reports of the kernel

The kernel tells a process about that process: its arguments and environment, its limits, its name
and its state. Each report is a text with a line for each fact; what depends on the rest of the
machine has a fixed value in it.
-/

set_option autoImplicit false

namespace SessionHandoff

/-- A text with blanks after it up to a width. -/
def padded (width : Nat) (s : String) : String :=
  s ++ String.ofList (List.replicate (width - s.length) ' ')

/-! ## Limits -/

/-- The value of a limit as a text. -/
def limitText (v : UInt64) : String :=
  if v = unlimited then "unlimited" else Text.decimalString v.toNat

/-- A line about a limit: its name, the limit that holds, the one up to which it may be raised, and
the unit if it has one. -/
def limitLine (name : String) (b : Bound) (unit? : Option String) : String :=
  padded 25 name ++ " " ++ padded 20 (limitText b.soft) ++ " " ++ padded 20 (limitText b.hard) ++
    " " ++ ((unit?.map (padded 10)).getD "") ++ "\n"

/-- The signals that may wait, the bytes of messages, and the time without pause: limits that
nothing here changes. -/
def fixedBounds : Bound × Bound × Bound :=
  (⟨128619, 128619⟩, ⟨819200, 819200⟩, ⟨unlimited, unlimited⟩)

namespace Process

/-- The limits of a process. -/
def limitsReport (p : Process) : String :=
  let line (name : String) (r : Resource) (unit? : Option String) : String :=
    limitLine name (p.limits.bound r) unit?
  let (signals, messages, time) := fixedBounds
  padded 25 "Limit" ++ " " ++ padded 20 "Soft Limit" ++ " " ++ padded 20 "Hard Limit" ++ " " ++
    padded 10 "Units" ++ "\n" ++
  String.join
    [line "Max cpu time" .cpuTime "seconds", line "Max file size" .fileSize "bytes",
      line "Max data size" .dataSize "bytes", line "Max stack size" .stack "bytes",
      line "Max core file size" .coreSize "bytes", line "Max resident set" .residentSet "bytes",
      line "Max processes" .processes "processes", line "Max open files" .openFiles "files",
      line "Max locked memory" .lockedMemory "bytes",
      line "Max address space" .addressSpace "bytes", line "Max file locks" .fileLocks "locks",
      limitLine "Max pending signals" signals "signals",
      limitLine "Max msgqueue size" messages "bytes", line "Max nice priority" .nice none,
      line "Max realtime priority" .realTime none, limitLine "Max realtime timeout" time "us"]

/-! ## State -/

/-- The greatest length of the name that the kernel keeps. -/
def maxKeptName : Nat := 15

/-- The name that the kernel keeps: that of the program's file, cut short. -/
def keptName (p : Process) : String :=
  String.ofList (((p.name.toList.splitOn '/').getLastD []).take maxKeptName)

/-- Ascending numbers as ranges, given the range that was begun. -/
def ranges : Nat × Nat → List Nat → List (Nat × Nat)
  | range, [] => [range]
  | (first, last), n :: rest =>
    if n = last + 1 then ranges (first, n) rest else (first, last) :: ranges (n, n) rest

/-- Ranges as a text. -/
def rangesText (rs : List (Nat × Nat)) : String :=
  ",".intercalate (rs.map fun (a, b) =>
    Text.decimalString a ++ if a = b then "" else "-" ++ Text.decimalString b)

/-- The processors that a process may run on. -/
def allowedProcessors (p : Process) : List Nat :=
  let all := List.range processorCount
  match p.limits.processors with
  | none => all
  | some processors => all.filter processors.contains

/-- The digits of a number in base 16. -/
def hexDigits (width n : Nat) : String :=
  let digits := Nat.toDigits 16 n
  String.ofList (List.replicate (width - digits.length) '0' ++ digits)

/-- The number whose bits are set at some places. -/
def bitSet (places : List Nat) : Nat :=
  places.foldl (fun n place => n ||| 1 <<< place) 0

/-- A set of signals as digits in base 16. -/
def signalSet (signals : List Nat) : String :=
  hexDigits 16 (bitSet (signals.map (· - 1)))

/-- The sizes of memory that a process uses, in kilobytes. -/
def memoryFacts : List (String × Nat) :=
  [("VmPeak", 3496), ("VmSize", 3496), ("VmLck", 0), ("VmPin", 0), ("VmHWM", 1640),
    ("VmRSS", 1640), ("RssAnon", 104), ("RssFile", 1536), ("RssShmem", 0), ("VmData", 1008),
    ("VmStk", 132), ("VmExe", 20), ("VmLib", 1748), ("VmPTE", 44), ("VmSwap", 0),
    ("HugetlbPages", 0)]

/-- The digits of no signals and no capabilities. -/
def emptySet : String := signalSet []

/-- The state of a process. -/
def statusReport (p : Process) : String :=
  let number := Text.decimalString p.number
  let octal := String.ofList (Text.octal p.umask.toNat)
  let mask := String.ofList (List.replicate (4 - octal.length) '0') ++ octal
  let processors := p.allowedProcessors
  let group := Text.decimalString (p.ancestors.getLastD p.number)
  let facts : List (String × String) :=
    [("Name", p.keptName), ("Umask", mask), ("State", "R (running)"), ("Tgid", number),
      ("Ngid", "0"), ("Pid", number), ("PPid", Text.decimalString (p.ancestors.headD 1)),
      ("TracerPid", "0"), ("Uid", "0\t0\t0\t0"), ("Gid", "0\t0\t0\t0"), ("FDSize", "64"),
      ("Groups", " "), ("NStgid", number), ("NSpid", number), ("NSpgid", group), ("NSsid", group),
      ("Kthread", "0")] ++
    memoryFacts.map (fun (name, size) =>
      let digits := Text.decimalString size
      (name, String.ofList (List.replicate (8 - digits.length) ' ') ++ digits ++ " kB")) ++
    [("CoreDumping", "0"), ("THP_enabled", "1"), ("untag_mask", "0xffffffffffffffff"),
      ("Threads", "1"), ("SigQ", "0/128619"), ("SigPnd", emptySet), ("ShdPnd", emptySet),
      ("SigBlk", signalSet p.blocked), ("SigIgn", signalSet p.ignored), ("SigCgt", emptySet),
      ("CapInh", emptySet), ("CapPrm", emptySet), ("CapEff", emptySet), ("CapBnd", emptySet),
      ("CapAmb", emptySet), ("NoNewPrivs", "0"), ("Seccomp", "0"), ("Seccomp_filters", "0"),
      ("Speculation_Store_Bypass", "vulnerable"), ("SpeculationIndirectBranch", "always enabled"),
      ("Cpus_allowed", hexDigits 1 (bitSet processors)),
      ("Cpus_allowed_list", match processors with
        | [] => ""
        | first :: rest => rangesText (ranges (first, first) rest)),
      ("Mems_allowed", ",".intercalate (List.replicate 31 "00000000" ++ ["00000001"])),
      ("Mems_allowed_list", "0"), ("voluntary_ctxt_switches", "0"),
      ("nonvoluntary_ctxt_switches", "0")]
  String.join (facts.map fun (name, value) => name ++ ":\t" ++ value ++ "\n")

/-- The nice value that the kernel takes for none in its own order of priorities. -/
def middlePriority : Int := 20

/-- The state of a process in one line. -/
def statisticsReport (p : Process) : String :=
  let group := Text.decimalString (p.ancestors.getLastD p.number)
  let before :=
    [Text.decimalString p.number, "(" ++ p.keptName ++ ")", "R",
      Text.decimalString (p.ancestors.headD 1), group, group, "0", "-1", "4194304", "82", "0", "0",
      "0", "0", "0", "0", "0", Text.signedString (middlePriority + p.limits.nice),
      Text.signedString p.limits.nice, "1", "0", "2568819", "2916352", "384"]
  let after := Text.decimalString (p.limits.bound .residentSet).soft.toNat ::
    List.replicate 12 "0" ++ ["17"] ++ List.replicate 14 "0"
  " ".intercalate (before ++ after) ++ "\n"

/-! ## All reports -/

/-- Strings with the octet zero after each of them. -/
def zeroEnded (strings : List String) : String :=
  String.join (strings.map (· ++ String.singleton (Char.ofNat 0)))

/-- A report about a process. -/
def report (p : Process) (r : Report) : Bytes :=
  Octets.bytesOf (match r with
    | .arguments => zeroEnded (p.name :: p.args)
    | .environment => zeroEnded p.environment
    | .limits => p.limitsReport
    | .name => p.keptName ++ "\n"
    | .statistics => p.statisticsReport
    | .status => p.statusReport)

end Process

end SessionHandoff
