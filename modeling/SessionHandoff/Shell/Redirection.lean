import SessionHandoff.Shell.Expansion

/-!
# Redirecting

A redirection opens something under a number of the shell, or gives a number the meaning of another.
What was open under the number before is kept under a number of ten or more, and is put back when
the command has ended. A number under which nothing was open is closed again.
-/

set_option autoImplicit false

namespace SessionHandoff.Shell

/-- A redirection whose words have been expanded. -/
inductive Lead where
  | file (fd : Nat) (direction : Direction) (path : String)
  | duplicate (fd : Nat) (source : Option Nat)
  | document (fd : Nat) (expands : Bool) (number : Nat)
deriving Repr

/-- The number that a redirection changes. -/
def Lead.fd : Lead → Nat
  | .file fd _ _ | .duplicate fd _ | .document fd _ _ => fd

/-- Expand the words of a redirection. -/
def expandLead (run : Runner) : Redirection → ShellM Lead
  | .file fd direction path => return .file fd direction (← expandText run Style.text path)
  | .duplicate fd source => return .duplicate fd source
  | .document fd expands number => return .document fd expands number
  | .duplicateWord fd source => do
    let text ← expandText run Style.text source
    match text.toList with
    | ['-'] => return .duplicate fd none
    | [c] =>
      if c.isDigit then return .duplicate fd (some (c.toNat - 48))
    | _ => pure ()
    modify fun s => { s with line := s.readLine }
    fail "Syntax error: Bad fd number"

/-- Expand the words of redirections. -/
def expandLeads (run : Runner) (redirections : List Redirection) : ShellM (List Lead) :=
  redirections.mapM (expandLead run)

/-! ## Opening -/

/-- The reason that is given for a failure to open a file. -/
def openReason (creates : Bool) : Errno → String
  | .noEntry | .notFolder => if creates then "Directory nonexistent" else "No such file"
  | e => e.description

/-- Fail to open a file. -/
def failToOpen {α : Type} (creates : Bool) (path : String) (e : Errno) : ShellM α :=
  fail ("cannot " ++ (if creates then "create " else "open ") ++ path ++ ": " ++
    openReason creates e)

/-- Open a file. Returns where it is open. -/
def openFor (mode : Process.OpenMode) (path : String) : ShellM Nat := do
  let s ← get
  if s.process.descriptorLimit ≤ s.process.freeDescriptor 0 then
    failToOpen mode.creates path .tooManyFiles
  let (r, world) := (s.process.openPath path mode).run s.world
  set { s with world }
  match r with
  | .ok i => return i
  | .error e => failToOpen mode.creates path e

/-- The least number under which something is kept. -/
def leastKept : Nat := 10

/-- Open a script for reading, which needs a number above those of redirections. -/
def openScript (path : String) : ShellM Nat := do
  let i ← openFor .reading path
  let s ← get
  let first := s.process.freeDescriptor 0
  if first < leastKept && s.process.descriptorLimit ≤ s.process.freeDescriptor leastKept then
    let reason := if s.process.descriptorLimit ≤ leastKept then Errno.invalidArgument
      else .tooManyFiles
    fail (Text.decimalString first ++ ": " ++ reason.description)
  return i

/-- Open a file for writing that must not be there yet, unless it is a device. -/
def openUnlessThere (path : String) : ShellM Nat := do
  let s ← get
  match (s.process.files s.world).find (Octets.toText path) with
  | .error _ => openFor { writable := true, creates := true, isNew := true } path
  | .ok (.file ..) => failToOpen true path .alreadyExists
  | .ok _ => openFor { writable := true } path

/-- Open a file in some direction. -/
def openTowards (direction : Direction) (path : String) : ShellM Nat := do
  match direction with
  | .input => openFor .reading path
  | .both => openFor .updating path
  | .append =>
    let i ← openFor .appending path
    spend (workOf ((← get).world.available i))
    return i
  | .clobber => openFor .writing path
  | .output => if ← hasOption 'C' then openUnlessThere path else openFor .writing path

/-- Open a document for reading. -/
def openDocument (run : Runner) (expands : Bool) (number : Nat) : ShellM Nat := do
  let word := ((← get).documents.lookup number).getD []
  let text ← if expands then expandText run Style.document word else pure (String.ofList
    (word.filterMap fun
      | .char c | .escaped c => some c
      | _ => none))
  let (reader, writer) ← openPipe
  modify fun s => { s with world := (s.world.writeAt writer (Octets.bytesOf text)).2 }
  return reader

/-! ## Keeping -/

/-- Keep what is open under a number, unless it is kept already. Where there is no number left to
keep it, it is lost. -/
def keep (fd : Nat) : ShellM Unit := do
  let s ← get
  let (frame, below) := match s.kept with
    | [] => ([], [])
    | frame :: below => (frame, below)
  if frame.any fun k => k.1 == fd then return
  match s.process.at? fd with
  | none => set { s with kept := ((fd, none) :: frame) :: below }
  | some i =>
    let free := s.process.freeDescriptor leastKept
    let process := s.process.withoutDescriptor fd
    if s.process.descriptorLimit ≤ free then
      set { s with process }
      let reason := if s.process.descriptorLimit ≤ leastKept then Errno.invalidArgument
        else .tooManyFiles
      fail (Text.decimalString fd ++ ": " ++ reason.description)
    set { s with process := process.withDescriptor free i
                 kept := ((fd, some free) :: frame) :: below }

/-- End the latest redirections, putting back what was kept or dropping it. -/
def endRedirections (drops : Bool := false) : ShellM Unit :=
  modify fun s =>
    match s.kept with
    | [] => s
    | frame :: below => { s with process := s.process.restored drops frame, kept := below }

/-- End all redirections but the oldest ones. -/
def endRedirectionsTo (depth : Nat) : ShellM Unit := do
  for _ in List.range ((← get).kept.length - depth) do
    endRedirections

/-! ## Redirecting -/

/-- Give a number a meaning, which had its own number so far. -/
def attach (fd source i : Nat) : ShellM Unit := do
  if (← get).process.descriptorLimit ≤ fd then
    fail (Text.decimalString source ++ ": " ++ Errno.badDescriptor.description)
  modify fun s => { s with process := s.process.withDescriptor fd i }

/-- Follow one redirection, keeping what it changes on request. -/
def follow (run : Runner) (keeps : Bool) (lead : Lead) : ShellM Unit := do
  let opened (i : Nat) : ShellM Unit := do
    if keeps then keep lead.fd
    modify fun s =>
      if s.process.descriptorLimit ≤ lead.fd then s
      else { s with process := s.process.withDescriptor lead.fd i }
  match lead with
  | .file _ direction path => opened (← openTowards direction path)
  | .document _ expands number => opened (← openDocument run expands number)
  | .duplicate fd (some source) =>
    if fd = source then return
    if keeps then keep fd
    match (← get).process.at? source with
    | some i => attach fd source i
    | none => fail (Text.decimalString source ++ ": " ++ Errno.badDescriptor.description)
  | .duplicate fd none =>
    if keeps then keep fd
    modify fun s => { s with process := s.process.withoutDescriptor fd }

/-- Follow redirections for good. -/
def redirect (run : Runner) (leads : List Lead) : ShellM Unit :=
  leads.forM (follow run false)

/-- Follow redirections until `endRedirections`. Returns whether all of them could be followed. -/
def redirectFor (run : Runner) (leads : List Lead) : ShellM Bool := do
  modify fun s => { s with kept := [] :: s.kept }
  try
    leads.forM (follow run true)
    return true
  catch
    | .error => return false
    | j => throw j

/-- The number under which the standard error from before the latest redirections is open. -/
def errorBefore : ShellM Nat := do
  match (← get).kept with
  | frame :: _ =>
    match frame.lookup 2 with
    | some (some k) => return k
    | _ => return 2
  | [] => return 2

end SessionHandoff.Shell
