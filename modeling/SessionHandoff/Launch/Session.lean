import SessionHandoff.Launch.Command
import SessionHandoff.Machine.Basic

/-!
# Sessions

A session is a command that has been started on a machine. The new process applies its limits to
itself before it becomes the program. Where the output goes is up to the profile: the launcher
collects it, shares its own streams with the session, or neither.

Nothing is started for a profile without command, and every failure to start is worded with the
program's name.
-/

set_option autoImplicit false

namespace SessionHandoff

/-- A session that has ended. -/
structure EndedSession where
  status : ExitStatus
  /-- What was collected of the standard output. -/
  stdout : Bytes := []
  /-- What was collected of the standard error. -/
  stderr : Bytes := []
  /-- What the session wrote onto the streams of its launcher. -/
  shared : List (OutStream × Bytes) := []
  /-- The files as the session left them. -/
  files : FileTree
deriving Repr

namespace SessionCommand

/-- The arguments and variables as the new process gets them. -/
def strings (c : SessionCommand) : List String :=
  c.program :: c.args ++ c.environment.entries.map fun e => e.1 ++ "=" ++ e.2

/-- Whether some string of the command holds the character NUL, which nothing can pass on. -/
def holdsNul (c : SessionCommand) : Bool :=
  c.strings.any fun s => s.toList.contains (Char.ofNat 0)

/-- The limits of the new process, after it has applied those it was given. -/
def childLimits (kernel : Kernel ProcessLimits) (c : SessionCommand) :
    Except IoError ProcessLimits :=
  match c.plan with
  | none => .ok {}
  | some plan =>
    let applied := (plan.applyInChild kernel c.strict).run.run ⟨{}, []⟩
    applied.1.map fun _ => applied.2.state

/-- The world in which the new process starts, with its three streams open. -/
def startWorld (c : SessionCommand) (files : FileTree) : World :=
  let input : OpenFile :=
    { endpoint := if c.input.isSome then .pipe 0 else .sink, readable := true }
  let output (s : OutStream) : OpenFile :=
    { endpoint := if c.streams = .discard then .sink else .stream s, writable := true }
  { nodes := files.nodes
    opened := #[input, output .out, output .err]
    pipes := #[{ front := Utf8.ofString (c.input.getD "") }] }

/-- The new process before it becomes the program. -/
def startProcess (c : SessionCommand) (files : FileTree) (limits : ProcessLimits) : Process :=
  { name := Octets.ofText c.program
    args := c.args.map Octets.ofText
    environment := c.environment.entries.map fun e => Octets.ofText (e.1 ++ "=" ++ e.2)
    descriptors := [(0, 0), (1, 1), (2, 2)]
    folder := files.workingFolder
    umask := files.umask
    limits }

/-- The new process becomes the program. A file that holds no program is read by the shell, except
where the program was named by its path and there is nothing to do before it starts. -/
def enter (c : SessionCommand) (programs : ProgramTable) (p : Process) :
    WorldM (Except Errno ExitStatus) :=
  if c.plan.isNone && c.program.contains '/' then become programs p p.name
  else becomeNamed programs p (searchPathOf p.environment) p.name

/-- Start the command and wait until its process has ended. -/
def execute (c : SessionCommand) (machine : Machine) (files : FileTree) :
    Except IoError (ExitStatus × World) :=
  if c.holdsNul then .error .nulInCommand
  else
    (c.childLimits machine.kernel).bind fun limits =>
      match c.enter machine.programs (c.startProcess files limits) (c.startWorld files) with
      | (.ok status, world) => .ok (status, world)
      | (.error e, _) => .error (.system e)

/-- The session that an execution makes. -/
def sessionOf (c : SessionCommand) (files : FileTree) (status : ExitStatus) (world : World) :
    EndedSession :=
  let files := { files with nodes := world.nodes }
  match c.streams with
  | .inherit => { status, shared := world.pieces, files }
  | .capture => { status, stdout := world.written .out, stderr := world.written .err, files }
  | .discard => { status, files }

end SessionCommand

/-- Start the session of a profile and wait for its end. -/
def runSession (machine : Machine) (files : FileTree) (p : LaunchProfile) (strict : Bool) :
    Except LaunchError EndedSession :=
  (buildCommand p strict).bind fun c =>
    match c.execute machine files with
    | .ok (status, world) => .ok (c.sessionOf files status world)
    | .error e => .error (.process (.notStarted p.executable e))

/-- Nothing is started for a profile whose own data reveals its password. -/
theorem runSession_of_buildCommand_error {machine : Machine} {files : FileTree} {p : LaunchProfile}
    {strict : Bool} {e : LaunchError} (h : buildCommand p strict = .error e) :
    runSession machine files p strict = .error e := by
  simp [runSession, h, Except.bind]

end SessionHandoff
