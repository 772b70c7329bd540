import SessionHandoff.Processes.Report

/-!
# Opening files

A process opens a path for reading, writing or both, makes the file or empties it where that is
asked for, and gets something open or the reason why it does not.
-/

set_option autoImplicit false

namespace SessionHandoff

namespace Process

/-- How something is opened. -/
structure OpenMode where
  readable : Bool := false
  writable : Bool := false
  appends : Bool := false
  /-- Whether a file is made where none stands. -/
  creates : Bool := false
  /-- Whether nothing may stand there yet. -/
  isNew : Bool := false
  /-- Whether a file that stands there is emptied. -/
  empties : Bool := false
deriving Repr

namespace OpenMode

/-- For reading. -/
def reading : OpenMode := { readable := true }

/-- For writing from the start, on a file that is made or emptied. -/
def writing : OpenMode := { writable := true, creates := true, empties := true }

/-- For writing at the end, on a file that is made where none stands. -/
def appending : OpenMode := { writable := true, creates := true, appends := true }

/-- For reading and writing, on a file that is made where none stands. -/
def updating : OpenMode := { readable := true, writable := true, creates := true }

end OpenMode

/-- The error number of a failure to open. -/
def errnoOf : IoError → Errno
  | .system e => e
  | _ => .noEntry

/-- Open what stands at a place. -/
def openStanding (p : Process) (w : World) (place : Place) (node : Node) (mode : OpenMode) :
    Except Errno Nat × World :=
  let file (endpoint : Endpoint) : OpenFile :=
    { endpoint, readable := mode.readable, writable := mode.writable, appends := mode.appends }
  let opened (endpoint : Endpoint) (w : World) : Except Errno Nat × World :=
    let (i, w) := w.opening (file endpoint)
    (.ok i, w)
  let denied := (mode.readable && !node.permits readMask) ||
    (mode.writable && !node.permits writeMask)
  if denied then (.error .accessDenied, w)
  else
    match node with
    | .folder =>
      if mode.writable || mode.creates then (.error .isFolder, w) else opened (.folder place) w
    | .sink => opened .sink w
    | .full => opened .full w
    | .endless => opened .endless w
    | .link _ => (.error .noEntry, w)
    | .terminal => (.error .noDevice, w)
    | .report r =>
      if mode.writable && r ≠ .name then (.error .accessDenied, w)
      else opened (.report (p.report r)) w
    | .file content permissions =>
      if mode.empties && mode.writable then
        let node := Node.file [] (if content.isEmpty then permissions else writtenMode permissions)
        opened (.file place) { w with nodes := FileTree.setEntry place node w.nodes }
      else opened (.file place) w
    | .descriptor n =>
      match (p.at? n).bind fun i => w.opened[i]? with
      | none => (.error .noEntry, w)
      | some f => opened f.endpoint w

/-- Open a path. -/
def openPath (p : Process) (path : String) (mode : OpenMode) : WorldM (Except Errno Nat) := fun w =>
  let tree := p.files w
  match tree.resolve (Octets.toText path) with
  | .error e => (.error (errnoOf e), w)
  | .ok target =>
    let slash := match target.last with
      | .name _ slash => slash
      | .dots => false
    if mode.creates && slash then (.error .isFolder, w)
    else
      match tree.lookAt target with
      | .error e => (.error (errnoOf e), w)
      | .ok none =>
        if mode.creates then
          let node := Node.file [] (tree.granted 0o666)
          let w := { w with nodes := FileTree.setEntry target.place node w.nodes }
          let (i, w) := w.opening
            { endpoint := .file target.place, readable := mode.readable,
              writable := mode.writable, appends := mode.appends }
          (.ok i, w)
        else (.error .noEntry, w)
      | .ok (some node) =>
        if mode.isNew then (.error .alreadyExists, w)
        else if slash && node != .folder then (.error .notFolder, w)
        else p.openStanding w target.place node mode

/-- Write a text under a number, whether or not that succeeds. -/
def say (p : Process) (fd : Nat) (text : String) : WorldM Unit := do
  let _ ← p.write fd (Octets.bytesOf text)

end Process

end SessionHandoff
