import SessionHandoff.Shell.Builtin.Call

/-!
# The surroundings of a process

The builtin commands for what a process hands on to the processes it starts: the folder that is
worked in, the permissions taken from new files, and the limits of resources.
-/

set_option autoImplicit false

namespace SessionHandoff.Shell

/-! ## The folder -/

/-- The components of a path after those of a folder, without dots. The first components may not be
left. -/
def joinComponents (kept : Nat) : List String → List String → List String
  | folder, [] => folder
  | folder, c :: rest =>
    if c = "." || c.isEmpty then joinComponents kept folder rest
    else if c = ".." then
      joinComponents kept (if folder.length > kept then folder.dropLast else folder) rest
    else joinComponents kept (folder ++ [c]) rest

/-- The components of a path. -/
def pathComponents (path : String) : List String :=
  ((path.toList.splitOn '/').map String.ofList).filter fun c => !c.isEmpty

/-- The path that another path means in a folder. Two slashes at the start are kept. -/
def pathFrom (folder path : String) : String :=
  let start := if path.startsWith "/" then path else folder
  let double := start.startsWith "//" && !start.startsWith "///"
  let components := if path.startsWith "/" then pathComponents path
    else pathComponents folder ++ pathComponents path
  (if double then "//" else "/") ++ "/".intercalate (joinComponents 0 [] components)

/-- Work in another folder. Returns whether that is possible. -/
def moveTo (path : String) (physical : Bool) : ShellM Bool := do
  let s ← get
  let full := pathFrom s.folder path
  let files := s.process.files s.world
  match files.find (Octets.toText full), files.resolve (Octets.toText full) with
  | .ok .folder, .ok target =>
    let physicalPath := "/" ++ "/".intercalate (target.place.map Octets.ofText)
    let folder := if physical then physicalPath else full
    assign "OLDPWD" s.folder true
    modify fun s => { s with
      process := { s.process with folder := target.place }
      folder
      hashed := s.hashed.map fun h => { h with stale := true } }
    assign "PWD" folder true
    return true
  | _, _ => return false

/-- Whether a path starts with a component of dots. -/
def startsWithDots (path : String) : Bool :=
  let first := String.ofList (path.toList.takeWhile (· != '/'))
  first = "." || first = ".."

/-- Work in another folder. -/
def changeFolder : Builtin := fun call => do
  let options ← call.options "LP"
  let physical := (options.letters.getLast?.map (·.1)) = some 'P'
  let s ← get
  let (path, shows) := match options.rest.head? with
    | none => ((s.value? "HOME").getD "", false)
    | some "-" => ((s.value? "OLDPWD").getD "", true)
    | some path => (path, false)
  let arrive (shows : Bool) : ShellM Nat := do
    if shows then emit ((← get).folder ++ "\n")
    return 0
  if !(path.startsWith "/" || startsWithDots path) then
    let name := if path.isEmpty then "." else path
    for folder in match s.value? "CDPATH" with
        | none => []
        | some folders => folders.toList.splitOn ':' do
      let full := if folder.isEmpty then name else String.ofList folder ++ "/" ++ name
      if (s.process.files s.world).find (Octets.toText full) matches .ok .folder then
        if ← moveTo full physical then return ← arrive (shows || !folder.isEmpty)
        fail ("can't cd to " ++ path)
  if ← moveTo (if path.isEmpty then "." else path) physical then arrive shows
  else fail ("can't cd to " ++ path)

/-- Write the folder that is worked in. -/
def showFolder : Builtin := fun call => do
  let options ← call.options "LP"
  let s ← get
  let physical := (options.letters.getLast?.map (·.1)) = some 'P'
  emit ((if physical then "/" ++ "/".intercalate (s.process.folder.map Octets.ofText)
    else s.folder) ++ "\n")
  return 0

/-! ## Permissions of new files -/

/-- Three permissions as letters. -/
def permissionLetters (bits : Nat) : String :=
  (if bits / 4 % 2 = 1 then "r" else "") ++ (if bits / 2 % 2 = 1 then "w" else "") ++
    (if bits % 2 = 1 then "x" else "")

/-- The permissions that are left by a mask, in letters. -/
def symbolicMask (mask : Nat) : String :=
  let left := 0o777 - mask
  "u=" ++ permissionLetters (left / 64 % 8) ++ ",g=" ++ permissionLetters (left / 8 % 8) ++
    ",o=" ++ permissionLetters (left % 8)

/-- The bits of the classes that letters name. -/
def classBits (letters : List Char) : Nat :=
  let has (c : Char) : Bool := letters.contains c || letters.contains 'a'
  (if has 'u' then 0o700 else 0) + (if has 'g' then 0o070 else 0) + (if has 'o' then 0o007 else 0)

/-- The bits that a letter of permissions names for every class, where some permissions are
present. -/
def permissionBits (present : Nat) : Char → Nat
  | 'r' => 0o444
  | 'w' => 0o222
  | 'x' => 0o111
  | 'X' => if present &&& 0o111 = 0 then 0 else 0o111
  | 'u' => present / 64 % 8 * 0o111
  | 'g' => present / 8 % 8 * 0o111
  | 'o' => present % 8 * 0o111
  | _ => 0

/-- Permissions changed as a sign says. -/
def signed (sign : Char) (classes bits permissions : Nat) : Nat :=
  if sign = '+' then permissions ||| bits
  else if sign = '-' then permissions &&& (0o777 - bits)
  else (permissions &&& (0o777 - classes)) ||| bits

/-- Change permissions as a symbolic text says, with so many signs at most. Letters copy the
permissions from before all changes; classes hold up to the next comma; a text may end after
classes. -/
def applySymbols? (before : Nat) : Nat → Nat → Nat → List Char → Option Nat
  | 0, _, _, _ => none
  | _ + 1, permissions, _, [] => some permissions
  | fuel + 1, permissions, classes, c :: text =>
    let letters := (c :: text).takeWhile fun c => ['u', 'g', 'o', 'a'].contains c
    let classes := classes ||| classBits letters
    let classes := if classes = 0 then 0o777 else classes
    match (c :: text).drop letters.length with
    | [] => some permissions
    | sign :: rest =>
      if !"+-=".toList.contains sign then none
      else
        let named := rest.takeWhile fun c => ['r', 'w', 'x', 'u', 'g', 'o', 'X', 's'].contains c
        let bits := named.foldl (fun bits c => bits ||| permissionBits before c) 0
        let permissions := signed sign classes (bits &&& classes) permissions
        match rest.drop named.length with
        | [] => some permissions
        | ',' :: rest => applySymbols? before fuel permissions 0 rest
        | next :: rest =>
          if ['+', '-', '='].contains next then
            applySymbols? before fuel permissions classes (next :: rest)
          else none

/-- Write or set the permissions taken from new files. -/
def umask : Builtin := fun call => do
  let options ← call.options "S"
  let s ← get
  let mask := s.process.umask.toNat
  let setMask (mask : Nat) : ShellM Nat := do
    modify fun s => { s with process := { s.process with umask := (mask % 512).toUInt32 } }
    return 0
  match options.rest with
  | [] =>
    if options.has 'S' then emit (symbolicMask mask ++ "\n")
    else
      let ds := Text.octal mask
      emit (String.ofList (List.replicate (4 - ds.length) '0' ++ ds) ++ "\n")
    return 0
  | text :: _ =>
    if (text.toList.headD ' ').isDigit then
      if text.toList.all fun c => '0' ≤ c && c ≤ '7' then
        setMask (text.toList.foldl (fun n c => 8 * n + (c.toNat - 48)) 0)
      else fail ("Illegal number: " ++ text)
    else
      let left := 0o777 - mask
      match applySymbols? left (text.length + 1) left 0 text.toList with
      | some left => setMask (0o777 - left)
      | none => fail ("Illegal mode: " ++ text)

/-! ## Limits -/

/-- A limit as the shell knows it. -/
structure KnownLimit where
  letter : Char
  label : String
  resource : Resource
  unit : Nat

/-- The limits that the shell knows. -/
def knownLimits : List KnownLimit :=
  [⟨'t', "time(seconds)", .cpuTime, 1⟩, ⟨'f', "file(blocks)", .fileSize, 512⟩,
    ⟨'d', "data(kbytes)", .dataSize, 1024⟩, ⟨'s', "stack(kbytes)", .stack, 1024⟩,
    ⟨'c', "coredump(blocks)", .coreSize, 512⟩, ⟨'m', "memory(kbytes)", .residentSet, 1024⟩,
    ⟨'l', "locked memory(kbytes)", .lockedMemory, 1024⟩, ⟨'p', "process", .processes, 1⟩,
    ⟨'n', "nofiles", .openFiles, 1⟩, ⟨'v', "vmemory(kbytes)", .addressSpace, 1024⟩,
    ⟨'w', "locks", .fileLocks, 1⟩, ⟨'r', "rtprio", .realTime, 1⟩]

/-- A limit as it is written. -/
def KnownLimit.shown (l : KnownLimit) (hard : Bool) (limits : ProcessLimits) : String :=
  let b := limits.bound l.resource
  let value := if hard then b.hard else b.soft
  (if value = unlimited then "unlimited"
    else Text.signedString (value.toNat / l.unit).toUInt64.toInt64.toInt) ++ "\n"

/-- The value of a limit that a text names in a unit. -/
def limitValue? (unit : Nat) (text : String) : Option UInt64 :=
  if text = "unlimited" then some unlimited
  else if text.toList.all Char.isDigit then
    some (UInt64.ofNat (text.toList.foldl (fun n c => 10 * n + (c.toNat - 48)) 0 * unit))
  else none

/-- Write or set limits. -/
def ulimit : Builtin := fun call => do
  let options ← call.options "HSatfdscmlpnvwr"
  let letters := options.letters.map (·.1)
  let how := (letters.filter fun c => c == 'H' || c == 'S').getLast?
  let what := ((letters.filter fun c => !"HSa".toList.contains c).getLast?).getD 'f'
  let limits := (← get).process.limits
  let all := letters.contains 'a'
  match options.rest, knownLimits.find? fun l => l.letter == what with
  | [], some l =>
    if all then
      for l in knownLimits do
        emit (l.label ++ String.ofList (List.replicate (20 - l.label.length) ' ') ++ " " ++
          l.shown (how = some 'H') limits)
    else emit (l.shown (how = some 'H') limits)
    return 0
  | text :: more, some l =>
    if all || !more.isEmpty then fail "too many arguments"
    match limitValue? l.unit text with
    | none => fail "bad number"
    | some value =>
      let old := limits.bound l.resource
      let bound : Bound :=
        ⟨if how = some 'H' then old.soft else value, if how = some 'S' then old.hard else value⟩
      match limits.setBound l.resource bound with
      | (none, limits) =>
        modify fun s => { s with process := { s.process with limits } }
        return 0
      | (some e, _) => fail ("error setting limit (" ++ e.description ++ ")")
  | _, none => return 0

end SessionHandoff.Shell
