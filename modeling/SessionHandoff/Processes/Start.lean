import SessionHandoff.Processes.Opening

/-!
# Starting programs

A process becomes a program by the path of its file. The file has to be there and to be executable;
it holds a program, or it starts with a line that names the program to read it, or it is none. A
program is named by a path, or by a name that is looked for in the folders of a search path.

Before a program runs, it is put into memory together with the libraries it needs. Where the limits
of the process leave too little room, that ends the process.
-/

set_option autoImplicit false

namespace SessionHandoff

/-- The programs of a machine, by the places of their files. -/
abbrev ProgramTable := Place → Option Program

/-! ## Room for a program -/

/-- What happens where there is too little memory. -/
inductive LoadFault where
  | crash
  /-- A library does not fit. -/
  | library (name : String)
  /-- There is no room for the data of the thread. -/
  | threadData
  /-- The program finds no memory to work with and ends with a code. -/
  | exhausted (code : Nat)
deriving DecidableEq, Repr

/-- What a program needs to be put into memory. -/
structure Footprint where
  /-- The library that is opened first. -/
  library : String := "libc.so.6"
  /-- What happens below so many pages of memory, by ascending numbers of pages. -/
  faults : List (Nat × LoadFault)
  /-- The pages of stack that are needed. -/
  stack : Nat
deriving Repr

/-- The size of a page. -/
def pageSize : Nat := 4096

/-- The faults of a program with one library: when it starts, when the library fits, and when there
is room for its thread. -/
def plainFaults (start library thread : Nat) : List (Nat × LoadFault) :=
  [(start, .crash), (library, .library "libc.so.6"), (thread, .threadData)]

/-- What programs need. -/
def footprints : List (String × Footprint) :=
  [("sh", ⟨"libc.so.6", plainFaults 136 669 672 ++ [(702, .crash)], 3⟩),
    ("cat", ⟨"libc.so.6", plainFaults 112 645 648 ++ [(711, .exhausted 1)], 3⟩),
    ("echo", ⟨"libc.so.6", plainFaults 111 644 647, 4⟩),
    ("env", ⟨"libc.so.6", plainFaults 113 646 649 ++ [(679, .exhausted 125)], 3⟩),
    ("sort", ⟨"libcrypto.so.3", [(127, .crash), (1430, .library "libcrypto.so.3"),
      (1960, .library "libc.so.6"), (1963, .threadData), (1993, .exhausted 2)], 4⟩),
    ("grep", ⟨"libpcre2-8.so.0", [(164, .crash), (321, .library "libpcre2-8.so.0"),
      (851, .library "libc.so.6"), (854, .threadData), (884, .exhausted 2)], 4⟩),
    ("wc", ⟨"libc.so.6", plainFaults 115 648 651 ++ [(681, .exhausted 1)], 7⟩),
    ("nice", ⟨"libc.so.6", plainFaults 111 644 647, 3⟩),
    ("sleep", ⟨"libc.so.6", plainFaults 110 643 646, 4⟩)]

/-- What other programs need. -/
def smallFootprint : Footprint := ⟨"libc.so.6", plainFaults 108 641 644, 4⟩

/-- What is said about a library that cannot be used. -/
def libraryFault (name library reason : String) : String :=
  name ++ ": error while loading shared libraries: " ++ library ++ ": " ++ reason ++ "\n"

/-- The end of a process in a load fault, and what is said about it. -/
def LoadFault.outcome (name : String) : LoadFault → ExitStatus × String
  | .crash => (.signal Signal.segmentation, "")
  | .library l => (.code 127, libraryFault name l "failed to map segment from shared object")
  | .threadData => (.code 127, "cannot allocate TLS data structures for initial thread\n")
  | .exhausted code => (.code code, name ++ ": memory exhausted\n")

/-- The fault in which a process ends before it becomes the program with some file name. -/
def Process.loadFault? (p : Process) (file : String) : Option (ExitStatus × String) :=
  let f := (footprints.lookup file).getD smallFootprint
  let pages (r : Resource) : Nat := (p.limits.bound r).soft.toNat / pageSize
  if pages .stack < f.stack then some (LoadFault.crash.outcome p.name)
  else
    match (f.faults.filter fun e => pages .addressSpace < e.1).head? with
    | some (_, .crash) => some (LoadFault.crash.outcome p.name)
    | fault? =>
      if p.descriptorLimit ≤ p.freeDescriptor 0 then
        some (.code 127,
          libraryFault p.name f.library "cannot open shared object file: Error 24")
      else fault?.map fun e => e.2.outcome p.name

/-! ## Becoming a program -/

/-- The length in bytes that every argument and every variable stays below. -/
def maxArgument : Nat := 131072

/-- Whether some string that the process is started with is too long. -/
def Process.isOverlong (p : Process) : Bool :=
  (p.args ++ p.environment).any fun s => s.length ≥ maxArgument

/-- The program and the argument that the first line of a script names. -/
def interpreterLine? (content : Bytes) : Option (String × Option String) :=
  match Octets.ofBytes (content.take 255) with
  | '#' :: '!' :: rest =>
    let blank (c : Char) : Bool := c == ' ' || c == '\t'
    let line := (rest.takeWhile (· != '\n')).dropWhile blank
    let line := (line.reverse.dropWhile blank).reverse
    let program := line.takeWhile fun c => !blank c
    let argument := (line.drop program.length).dropWhile blank
    if program.isEmpty then none
    else some (String.ofList program,
      if argument.isEmpty then none else some (String.ofList argument))
  | _ => none

/-- Find the executable file at a path: its place and its content. -/
def FileTree.executable (files : FileTree) (path : String) : Except Errno (Place × Bytes) :=
  match files.find path with
  | .error e => .error (Process.errnoOf e)
  | .ok (.file content mode) =>
    if !(Node.file content mode).permits executeMask then .error .accessDenied
    else
      match files.resolve path with
      | .ok target => .ok (target.place, content)
      | .error e => .error (Process.errnoOf e)
  | .ok _ => .error .accessDenied

/-- Become the program of the file at a path, through at most so many scripts. -/
def becomeThrough (programs : ProgramTable) : Nat → Process → String →
    WorldM (Except Errno ExitStatus)
  | 0, _, _ => return .error .notExecutable
  | depth + 1, p, path => do
    match (p.files (← get)).executable (Octets.toText path) with
    | .error e => return .error e
    | .ok (place, content) =>
      if p.isOverlong then return .error .argumentsTooLong
      match programs place with
      | some program =>
        match p.loadFault? (place.getLast?.getD "") with
        | some (status, note) =>
          p.say 2 note
          return .ok status
        | none => return .ok (← program p)
      | none =>
        match interpreterLine? content with
        | none => return .error .notExecutable
        | some (interpreter, argument) =>
          becomeThrough programs depth
            { p with name := interpreter, args := argument.toList ++ path :: p.args } interpreter

/-- Become the program of the file at a path. -/
def become (programs : ProgramTable) (p : Process) (path : String) :
    WorldM (Except Errno ExitStatus) :=
  becomeThrough programs 5 p path

/-- Become the program of the file at a path; the shell reads a file that holds no program. -/
def becomeOrRead (programs : ProgramTable) (p : Process) (path : String) :
    WorldM (Except Errno ExitStatus) := do
  match ← become programs p path with
  | .error .notExecutable =>
    become programs { p with name := "/bin/sh", args := path :: p.args } "/bin/sh"
  | r => return r

/-! ## Search paths -/

/-- The search path of a process that was given none. -/
def defaultSearchPath : String := "/bin:/usr/bin"

/-- The paths that a name stands for in the folders of a search path. An empty folder is the one
that is worked in. -/
def candidates (searchPath name : String) : List String :=
  (searchPath.toList.splitOn ':').map fun folder =>
    if folder.isEmpty then name else String.ofList folder ++ "/" ++ name

/-- Become the program at the first path that starts one. If none does, the error number is the
last one: but that a file may not be executed counts for more than that there is none. -/
def becomeFirst (programs : ProgramTable) (p : Process) (outcome : Errno) :
    List String → WorldM (Except Errno ExitStatus)
  | [] => return .error outcome
  | path :: rest => do
    let later (e : Errno) : Errno := if outcome = .accessDenied then outcome else e
    match ← becomeOrRead programs p path with
    | .error .noEntry => becomeFirst programs p (later .noEntry) rest
    | .error .notFolder => becomeFirst programs p (later .notFolder) rest
    | .error .accessDenied => becomeFirst programs p .accessDenied rest
    | r => return r

/-- Become the program that a name or path stands for. -/
def becomeNamed (programs : ProgramTable) (p : Process) (searchPath name : String) :
    WorldM (Except Errno ExitStatus) :=
  if name.contains '/' then becomeOrRead programs p name
  else if name.isEmpty then return .error .noEntry
  else if name.length > FileTree.maxName then return .error .nameTooLong
  else becomeFirst programs p .noEntry (candidates searchPath name)

/-- The value of a variable in an environment. -/
def environmentValue? (environment : List String) (name : String) : Option String :=
  let start := (name ++ "=").toList
  (environment.find? fun e => start.isPrefixOf e.toList).map fun e =>
    String.ofList (e.toList.drop start.length)

/-- The search path of an environment. -/
def searchPathOf (environment : List String) : String :=
  (environmentValue? environment "PATH").getD defaultSearchPath

end SessionHandoff
