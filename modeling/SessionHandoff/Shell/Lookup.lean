import SessionHandoff.Shell.Redirection

/-!
# Names of commands

A name stands for a function, a builtin command or a program. Programs are looked for in the folders
of a search path: the first file that may be executed counts. A program that was found is noted, and
is looked for again only if the folder or the search path was changed.
-/

set_option autoImplicit false

namespace SessionHandoff.Shell

/-- The builtin commands whose failure ends the shell. -/
def isSpecial (name : String) : Bool :=
  specialNames.contains name

/-- The builtin commands that take assignments. -/
def assigningNames : List String := ["alias", "export", "local", "readonly"]

/-- The other builtin commands. -/
def plainNames : List String :=
  ["[", "alias", "bg", "cd", "chdir", "command", "echo", "false", "fg", "getopts", "hash", "jobs",
    "kill", "printf", "pwd", "read", "test", "true", "type", "ulimit", "umask", "unalias", "wait"]

/-- Whether a name is that of a builtin command. -/
def isBuiltin (name : String) : Bool :=
  isSpecial name || plainNames.contains name

/-- What a name stands for. -/
inductive Found where
  | function (body : Command)
  | builtin
  /-- A program, with the paths at which it may be, and whether it was noted before. -/
  | program (paths : List String) (noted : Bool)
  | missing (e : Errno)
deriving Inhabited

/-! ## Search paths -/

/-- What one path is for a search: an error to remember, or a file that may be executed. -/
def probe (files : FileTree) (path : String) : Except (Option Errno) Unit :=
  match files.find (Octets.toText path) with
  | .ok (.file content mode) =>
    if (Node.file content mode).permits executeMask then .ok () else .error (some .accessDenied)
  | .ok _ => .error (some .accessDenied)
  | .error e =>
    match Process.errnoOf e with
    | .noEntry | .notFolder => .error none
    | e => .error (some e)

/-- The paths from the first on that is a file that may be executed. -/
def searchFrom (files : FileTree) (outcome : Errno) : List String → Except Errno (List String)
  | [] => .error outcome
  | path :: rest =>
    match probe files path with
    | .ok () => .ok (path :: rest)
    | .error e => searchFrom files (e.getD outcome) rest

/-- The paths of a program on a search path. -/
def searchProgram (s : State) (searchPath name : String) : Except Errno (List String) :=
  searchFrom (s.process.files s.world) .noEntry (candidates searchPath name)

/-! ## Programs that were found -/

/-- The row in which a program is noted. -/
def hashRow (name : String) : Nat :=
  let bytes := name.toList.map Char.toNat
  bytes.foldl (· + ·) (16 * bytes.headD 0) % 32768 % 31

/-- Note a program. -/
def noteProgram (name path : String) : ShellM Unit :=
  modify fun s => { s with
    hashed := s.hashed.filter (fun h => h.name != name) ++ [{ name, path }] }

/-- Forget a program that was noted. -/
def forgetProgram (name : String) : ShellM Unit :=
  modify fun s => { s with hashed := s.hashed.filter fun h => h.name != name }

/-- Find a program on the search path of the shell, and note it. -/
def findProgram (name : String) : ShellM Found := do
  let s ← get
  let noted? := s.hashed.find? fun h => h.name == name
  let paths := candidates s.searchPath name
  match noted? with
  | some ⟨_, path, false⟩ => return .program (paths.dropWhile (· != path)) true
  | _ =>
    match searchProgram s s.searchPath name with
    | .ok found =>
      noteProgram name (found.headD name)
      return .program found noted?.isSome
    | .error e =>
      forgetProgram name
      return .missing e

/-- What a name stands for. Functions are left out on request, and another search path may be
given. -/
def find (name : String) (functions : Bool := true) (searchPath? : Option String := none) :
    ShellM Found := do
  if name.contains '/' then return .program [name] false
  let s ← get
  match if functions then s.functions.lookup name else none with
  | some body => return .function body
  | none =>
    if isBuiltin name then return .builtin
    match searchPath? with
    | none => findProgram name
    | some searchPath =>
      match searchProgram s searchPath name with
      | .ok paths => return .program paths false
      | .error e => return .missing e

/-- The reason that is given where a program cannot be started. -/
def startReason : Errno → String
  | .noEntry | .notFolder => "not found"
  | e => e.description

/-- The status that stands for a failure to start a program. -/
def startStatus : Errno → Nat
  | .noEntry | .notFolder | .nameTooLong => 127
  | _ => 126

end SessionHandoff.Shell
