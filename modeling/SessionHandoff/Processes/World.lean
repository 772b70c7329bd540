import SessionHandoff.Failure.System
import SessionHandoff.Processes.Pipe
import SessionHandoff.Storage.FileTree
import SessionHandoff.Text.Octets

/-!
# What processes share

Processes share the files of the machine, the pipes between them, and the streams of the launcher.
What is open, with the position that has been reached in it, is shared by all numbers under which
processes have it open.

A `World` is all of this at one moment, with a clock for processes that sleep.
-/

set_option autoImplicit false

namespace SessionHandoff

/-- The output streams of the launcher. -/
inductive OutStream where
  | out | err
deriving DecidableEq, Repr

/-- What something open leads to. -/
inductive Endpoint where
  | file (place : Place)
  | folder (place : Place)
  | sink
  | full
  | endless
  /-- What the kernel made up. -/
  | report (content : Bytes)
  | pipe (number : Nat)
  | stream (s : OutStream)
deriving DecidableEq, Repr

/-- Something open. -/
structure OpenFile where
  endpoint : Endpoint
  readable : Bool := false
  writable : Bool := false
  /-- Whether everything is written at the end of the file. -/
  appends : Bool := false
  /-- How many bytes have been passed. -/
  position : Nat := 0
deriving Repr

/-- A piece of output that reached the launcher. -/
structure Piece where
  time : Nat
  stream : OutStream
  content : Bytes
deriving Repr

/-- What processes share. -/
structure World where
  nodes : List (Place × Node)
  /-- All that was ever opened. -/
  opened : Array OpenFile := #[]
  pipes : Array Pipe := #[]
  /-- The output so far, the latest piece first. -/
  output : List Piece := []
  /-- The time of the running process, in milliseconds. -/
  clock : Nat := 0
  /-- The number of the latest process. -/
  lastProcess : Nat := 4242
  /-- The signals on their way: the number of the process and of the signal. -/
  sent : List (Nat × Nat) := []
deriving Repr

/-- A change of what processes share. -/
abbrev WorldM := StateM World

namespace World

/-- All that was written on a stream of the launcher, in the order of time. -/
def written (w : World) (stream : OutStream) : Bytes :=
  (((w.output.filter fun p => p.stream == stream).reverse).mergeSort
    fun a b => a.time ≤ b.time).flatMap Piece.content

/-- The output as pieces in the order of time. -/
def pieces (w : World) : List (OutStream × Bytes) :=
  (w.output.reverse.mergeSort fun a b => a.time ≤ b.time).map fun p => (p.stream, p.content)

/-- The world with something more open, and where it is. -/
def opening (w : World) (f : OpenFile) : Nat × World :=
  (w.opened.size, { w with opened := w.opened.push f })

/-- The world with one more pipe, and its two ends. -/
def piping (w : World) (content : Bytes) : (Nat × Nat) × World :=
  let n := w.pipes.size
  let w := { w with pipes := w.pipes.push { front := content } }
  let (reader, w) := w.opening { endpoint := .pipe n, readable := true }
  let (writer, w) := w.opening { endpoint := .pipe n, writable := true }
  ((reader, writer), w)

/-- Bytes with others written over them from a position on. -/
def overwrite (content : Bytes) (position : Nat) (bytes : Bytes) : Bytes :=
  let before := content.take position
  before ++ List.replicate (position - before.length) 0 ++ bytes ++
    content.drop (position + bytes.length)

/-- Write at something open. -/
def writeAt (w : World) (i : Nat) (bytes : Bytes) : Except Errno Unit × World :=
  match w.opened[i]? with
  | none => (.error .badDescriptor, w)
  | some f =>
    if !f.writable then (.error .badDescriptor, w)
    else if bytes.isEmpty then (.ok (), w)
    else
      match f.endpoint with
      | .sink | .endless => (.ok (), w)
      | .full => (.error .noSpace, w)
      | .folder _ => (.error .isFolder, w)
      | .report _ => (.ok (), w)
      | .stream s => (.ok (), { w with output := ⟨w.clock, s, bytes⟩ :: w.output })
      | .pipe n => (.ok (), { w with pipes := w.pipes.modify n (·.write bytes) })
      | .file place =>
        match w.nodes.lookup place with
        | some (.file content mode) =>
          let position := if f.appends then content.length else f.position
          let node := Node.file (overwrite content position bytes) (writtenMode mode)
          (.ok (), { w with
            nodes := FileTree.setEntry place node w.nodes
            opened := w.opened.modify i fun f =>
              { f with position := position + bytes.length } })
        | _ => (.error .noEntry, w)

/-- Read at most so many bytes at something open; none are left where none come. -/
def readAt (w : World) (i : Nat) (count : Nat) : Except Errno Bytes × World :=
  match w.opened[i]? with
  | none => (.error .badDescriptor, w)
  | some f =>
    if !f.readable then (.error .badDescriptor, w)
    else
      match f.endpoint with
      | .sink | .full | .stream _ => (.ok [], w)
      | .endless => (.ok (List.replicate count 0), w)
      | .folder _ => (.error .isFolder, w)
      | .report content =>
        let bytes := (content.drop f.position).take count
        (.ok bytes, { w with
          opened := w.opened.modify i fun f => { f with position := f.position + bytes.length } })
      | .pipe n =>
        let (bytes, pipe) := (w.pipes[n]?.getD {}).read count
        (.ok bytes, { w with pipes := w.pipes.setIfInBounds n pipe })
      | .file place =>
        match w.nodes.lookup place with
        | some (.file content _) =>
          let bytes := (content.drop f.position).take count
          (.ok bytes, { w with
            opened := w.opened.modify i fun f =>
              { f with position := f.position + bytes.length } })
        | _ => (.ok [], w)

/-- How many bytes are left to read at something open. -/
def available (w : World) (i : Nat) : Nat :=
  match w.opened[i]? with
  | none => 0
  | some f =>
    match f.endpoint with
    | .pipe n => (w.pipes[n]?.getD {}).content.length
    | .report content => content.length - f.position
    | .file place =>
      match w.nodes.lookup place with
      | some (.file content _) => content.length - f.position
      | _ => 0
    | _ => 0

end World

end SessionHandoff
