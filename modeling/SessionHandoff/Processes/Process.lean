import SessionHandoff.Children.Table
import SessionHandoff.Limits.Kernel
import SessionHandoff.Processes.Signal
import SessionHandoff.Processes.World

/-!
# Processes

A process has files and pipes open under numbers of its own, works in a folder and under limits, and
hands all this on to the processes it starts. A program is a change of the world that ends with a
status.
-/

set_option autoImplicit false

namespace SessionHandoff

/-- What a process sees of itself and hands on to the processes it starts. -/
structure Process where
  /-- The name under which the program was started. -/
  name : String
  args : List String := []
  /-- The environment: names and values joined by equals signs. -/
  environment : List String := []
  /-- The numbers under which something is open. -/
  descriptors : List (Nat × Nat) := []
  folder : Place := []
  umask : UInt32 := 0o022
  limits : ProcessLimits := {}
  /-- The signals that the process ignores. -/
  ignored : List Nat := []
  /-- The signals that wait until the process takes them. -/
  blocked : List Nat := []
  number : Nat := 4242
  /-- The numbers of the processes that wait for this one, the nearest first. -/
  ancestors : List Nat := [4241]
deriving Repr

/-- A program that ends. -/
abbrev Program := Process → WorldM ExitStatus

namespace Process

/-- Whether a signal arrives at the process. -/
def takes (p : Process) (signal : Nat) : Bool :=
  Signal.isCertain signal || !p.blocked.contains signal

/-- Whether a signal that the process has no action for ends it. -/
def isEndedBy (p : Process) (signal : Nat) : Bool :=
  Signal.isCertain signal ||
    !(Signal.isHarmless signal || p.ignored.contains signal || p.blocked.contains signal)

/-- A signal that ends the process and is on its way to it. -/
def ending? (p : Process) (w : World) : Option Nat :=
  (w.sent.find? fun e => e.1 == p.number && p.isEndedBy e.2).map (·.2)

/-- The files as the process sees them. -/
def files (p : Process) (w : World) : FileTree :=
  ⟨w.nodes, p.folder, p.umask⟩

/-- Where something is that is open under a number. -/
def at? (p : Process) (fd : Nat) : Option Nat :=
  p.descriptors.lookup fd

/-- The process with something open under a number. -/
def withDescriptor (p : Process) (fd i : Nat) : Process :=
  { p with descriptors := (fd, i) :: p.descriptors.filter (·.1 ≠ fd) }

/-- The process with nothing open under a number. -/
def withoutDescriptor (p : Process) (fd : Nat) : Process :=
  { p with descriptors := p.descriptors.filter (·.1 ≠ fd) }

/-- The process with what some numbers meant put back: each has the number under which that is kept,
or nothing. What is kept may also be dropped. -/
def restored (p : Process) (drops : Bool) (kept : List (Nat × Option Nat)) : Process :=
  kept.foldl (fun p (fd, kept?) =>
    match kept? with
    | none => if drops then p else p.withoutDescriptor fd
    | some k =>
      let back := match p.at? k with
        | some i => if drops then p else p.withDescriptor fd i
        | none => p
      back.withoutDescriptor k) p

/-- The least number from some number on under which nothing is open. -/
def freeDescriptor (p : Process) (least : Nat) : Nat :=
  ((List.range (p.descriptors.length + 1)).map (least + ·)).find?
    (fun fd => (p.at? fd).isNone) |>.getD least

/-- The number that all numbers of open things stay below. -/
def descriptorLimit (p : Process) : Nat :=
  (p.limits.bound .openFiles).soft.toNat

/-- How many of some bytes may be written at something open, by the limit of the size of files. -/
def fitting (p : Process) (w : World) (i : Nat) (bytes : Bytes) : Nat :=
  let limit := (p.limits.bound .fileSize).soft
  match w.opened[i]? with
  | some { endpoint := .file place, appends, position, .. } =>
    if limit = unlimited then bytes.length
    else
      let reached := match appends, w.nodes.lookup place with
        | true, some (.file content _) => content.length
        | _, _ => position
      min bytes.length (limit.toNat - reached)
  | _ => bytes.length

/-- Write under a number. Where not all bytes may be written, the others are, and the process gets a
signal. -/
def write (p : Process) (fd : Nat) (bytes : Bytes) : WorldM (Except Errno Unit) := fun w =>
  match p.at? fd with
  | some i =>
    let fits := p.fitting w i bytes
    match w.writeAt i (bytes.take fits) with
    | (.ok (), w) =>
      if fits = bytes.length then (.ok (), w)
      else (.error .fileTooLarge, { w with sent := (p.number, Signal.sizeLimit) :: w.sent })
    | failed => failed
  | none => (.error .badDescriptor, w)

/-- Read under a number. -/
def read (p : Process) (fd : Nat) (count : Nat) : WorldM (Except Errno Bytes) := fun w =>
  match p.at? fd with
  | some i => w.readAt i count
  | none => (.error .badDescriptor, w)

/-- Read all that is left under a number. -/
def readAll (p : Process) (fd : Nat) : WorldM (Except Errno Bytes) := fun w =>
  match p.at? fd with
  | some i => w.readAt i (w.available i)
  | none => (.error .badDescriptor, w)

/-- Sleep for some milliseconds. -/
def sleep (milliseconds : Nat) : WorldM Unit :=
  modify fun w => { w with clock := w.clock + milliseconds }

end Process

end SessionHandoff
