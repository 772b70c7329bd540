import SessionHandoff.Failure.System
import SessionHandoff.Text.Utf8

/-!
# Files

A `FileTree` is what a process sees of the files of its machine: a finite tree of folders, plain
files, links and a few devices, the folder it works in, and the permissions it takes from every file
it makes. The process owns every file, and what the owner may not do with a file it may not do
either.

A path is walked one component at a time; everything before the last component has to be a folder.
Where a link stands the path goes on at the target of the link.
`openNode`, `createNew` and `createOrEmpty` open a path in three ways and fail as the system does.
`createNew` alone does not follow a link that stands at the end: something stands there already.
-/

set_option autoImplicit false

namespace SessionHandoff

/-- A place in the tree: the names from the root down. -/
abbrev Place := List String

/-- What the kernel tells a process about that process, in a file for each. -/
inductive Report where
  | arguments | environment | limits | name | statistics | status
deriving DecidableEq, Repr

/-- What stands at a place of the tree. -/
inductive Node where
  | folder
  | file (content : Bytes) (mode : UInt32)
  /-- Another name for what stands at a place, which is no link. -/
  | link (target : Place)
  /-- A file whose content is made up for the process that opens it. -/
  | report (r : Report)
  /-- The device that a process without a terminal cannot open. -/
  | terminal
  /-- The device that is empty and takes everything. -/
  | sink
  /-- The device that never has room. -/
  | full
  /-- The device that takes everything and never ends. -/
  | endless
  /-- The device that stands for what its opener has open under a number. -/
  | descriptor (n : Nat)
deriving DecidableEq, Repr

/-- The permission of the owner to read a file. -/
def readMask : UInt32 := 0o400

/-- The permission of the owner to write a file. -/
def writeMask : UInt32 := 0o200

/-- The permission of the owner to execute a file. -/
def executeMask : UInt32 := 0o100

namespace Node

/-- Whether the owner has a permission; folders and devices may be opened in every way. -/
def permits (mask : UInt32) : Node → Bool
  | .file _ mode => mode &&& mask != 0
  | _ => true

/-- The content of an open node; a folder opens and cannot be read. -/
def content : Node → Except IoError Bytes
  | .folder => .error (.system .isFolder)
  | .file content _ => .ok content
  | _ => .ok []

end Node

/-- The permissions of a file after it was written: it runs as its owner no longer, and as its group
no longer if the group may execute it. -/
def writtenMode (mode : UInt32) : UInt32 :=
  let kept := mode &&& ~~~0o4000
  if mode &&& 0o010 = 0 then kept else kept &&& ~~~0o2000

/-- The files of a machine as a process sees them. -/
structure FileTree where
  nodes : List (Place × Node)
  /-- Where paths that do not start at the root start. -/
  workingFolder : Place
  /-- The permissions taken from every new file. -/
  umask : UInt32
deriving Repr

namespace FileTree

/-- What stands at a place. The root is always a folder. -/
def get? (tree : FileTree) (place : Place) : Option Node :=
  if place = [] then some .folder else tree.nodes.lookup place

/-- The entries with a place set. -/
def setEntry (place : Place) (node : Node) : List (Place × Node) → List (Place × Node)
  | [] => [(place, node)]
  | (p, n) :: rest =>
    if p = place then (place, node) :: rest else (p, n) :: setEntry place node rest

/-- The tree with a node put at a place. -/
def put (tree : FileTree) (place : Place) (node : Node) : FileTree :=
  { tree with nodes := setEntry place node tree.nodes }

/-- After a place is set it holds the node, and every other place holds what it held. -/
theorem lookup_setEntry (place other : Place) (node : Node) (entries : List (Place × Node)) :
    (setEntry place node entries).lookup other =
      if other = place then some node else entries.lookup other := by
  induction entries with
  | nil =>
    by_cases h : other = place
    · simp [setEntry, h]
    · have hb : (other == place) = false := by simpa using h
      simp [setEntry, List.lookup_cons, hb, h]
  | cons head rest ih =>
    obtain ⟨p, n⟩ := head
    unfold setEntry
    by_cases hp : p = place
    · subst hp
      by_cases h : other = p
      · simp [h]
      · have hb : (other == p) = false := by simpa using h
        simp [List.lookup_cons, hb, h]
    · by_cases h : other = p
      · subst h
        simp [hp]
      · have hb : (other == p) = false := by simpa using h
        simp [List.lookup_cons, hp, hb, ih]

/-! ## Paths -/

/-- The greatest length of a name in bytes. -/
def maxName : Nat := 255

/-- The length in bytes that every path stays below. -/
def maxPath : Nat := 4096

/-- The last component of a path. -/
inductive LastPart where
  /-- The path names a folder by dots or is the root alone. -/
  | dots
  /-- A name, and whether a slash follows it. -/
  | name (s : String) (slash : Bool)
deriving DecidableEq, Repr

/-- A path that is walked up to its last component. -/
structure Target where
  folder : Place
  last : LastPart
deriving DecidableEq, Repr

/-- The place of a target. -/
def Target.place (t : Target) : Place :=
  match t.last with
  | .dots => t.folder
  | .name s _ => t.folder ++ [s]

/-- Fail unless a folder stands at the place. -/
def expectFolder (tree : FileTree) (place : Place) : Except Errno Unit :=
  match tree.get? place with
  | none => .error .noEntry
  | some .folder => .ok ()
  | some _ => .error .notFolder

/-- Whether a name is longer than the name of any file. -/
def isOverlong (name : String) : Bool :=
  (Utf8.ofString name).length > maxName

/-- The place that a place leads to: the target if a link stands there. -/
def follow (tree : FileTree) (place : Place) : Place :=
  match tree.get? place with
  | some (.link target) => target
  | _ => place

/-- The target with the link followed that may stand there. -/
def followTarget (tree : FileTree) (t : Target) : Target :=
  match t.last, tree.get? t.place with
  | .name _ slash, some (.link place) =>
    match place.getLast? with
    | some s => ⟨place.dropLast, .name s slash⟩
    | none => ⟨[], .dots⟩
  | _, _ => t

/-- The folder that a component leads to from a place. -/
def stepInto (tree : FileTree) (place : Place) (component : String) : Except Errno Place :=
  (tree.expectFolder place).bind fun _ =>
    if component = "." then .ok place
    else if component = ".." then .ok place.dropLast
    else if isOverlong component then .error .nameTooLong
    else .ok (tree.follow (place ++ [component]))

/-- The place that components lead to. -/
def walk (tree : FileTree) : Place → List String → Except Errno Place
  | place, [] => .ok place
  | place, c :: rest => (tree.stepInto place c).bind fun next => walk tree next rest

/-- Whether a component is a name and not dots. -/
def isName (component : String) : Bool :=
  component ≠ "." && component ≠ ".."

/-- The components of a path. -/
def components (path : String) : List String :=
  ((path.toList.splitOn '/').filter (· ≠ [])).map String.ofList

/-- Walk a path up to its last component, whose length is not looked at. A link that stands there is
not followed. -/
def locate (tree : FileTree) (path : String) : Except IoError Target :=
  let text := path.toList
  if text.contains (Char.ofNat 0) then .error .nulInPath
  else if text = [] then .error (.system .noEntry)
  else if (Utf8.encode text).length ≥ maxPath then .error (.system .nameTooLong)
  else
    let start := if text.head? = some '/' then [] else tree.workingFolder
    let parts := components path
    match parts.getLast? with
    | none => .ok ⟨start, .dots⟩
    | some last =>
      if isName last then
        match (tree.walk start parts.dropLast).bind fun folder =>
          (tree.expectFolder folder).map fun _ => folder with
        | .error e => .error (.system e)
        | .ok folder => .ok ⟨folder, .name last (text.getLast? = some '/')⟩
      else
        match tree.walk start parts with
        | .error e => .error (.system e)
        | .ok folder => .ok ⟨folder, .dots⟩

/-- Walk a path up to its last component, and follow the link that may stand there. -/
def resolve (tree : FileTree) (path : String) : Except IoError Target :=
  (tree.locate path).map tree.followTarget

/-- Whether a path names a link and not what it leads to. What stands for something open is one. -/
def isLink (tree : FileTree) (path : String) : Bool :=
  match tree.locate path with
  | .ok ⟨folder, .name s false⟩ =>
    match tree.get? (folder ++ [s]) with
    | some (.link _) | some (.descriptor _) => true
    | _ => false
  | _ => false

/-! ## Opening -/

/-- What stands at a target, if its name can be looked up. -/
def lookAt (tree : FileTree) (t : Target) : Except IoError (Option Node) :=
  match t.last with
  | .dots => .ok (tree.get? t.place)
  | .name s _ => if isOverlong s then .error (.system .nameTooLong) else .ok (tree.get? t.place)

/-- What a path leads to. -/
def find (tree : FileTree) (path : String) : Except IoError Node :=
  (tree.resolve path).bind fun t =>
    (tree.lookAt t).bind fun
      | none => .error (.system .noEntry)
      | some .folder => .ok .folder
      | some node =>
        match t.last with
        | .name _ true => .error (.system .notFolder)
        | _ => .ok node

/-- Whether something stands at the path. -/
def hasEntry (tree : FileTree) (path : String) : Bool :=
  (tree.find path).toBool

/-- What a path leads to, opened for reading. -/
def openNode (tree : FileTree) (path : String) : Except IoError Node :=
  (tree.find path).bind fun node =>
    if node.permits readMask then .ok node else .error (.system .accessDenied)

/-- The content of the file at a path. -/
def readFile (tree : FileTree) (path : String) : Except IoError Bytes :=
  (tree.openNode path).bind Node.content

/-- The text of the file at a path. -/
def readText (tree : FileTree) (path : String) : Except IoError String :=
  (tree.readFile path).bind fun bytes =>
    match Utf8.toString? bytes with
    | some s => .ok s
    | none => .error .notText

/-- The permissions that a new file gets when some are asked for. -/
def granted (tree : FileTree) (mode : UInt32) : UInt32 :=
  mode &&& 0o7777 &&& ~~~tree.umask

/-- Make an empty file at a path where nothing stands, not even a link. -/
def createNew (tree : FileTree) (path : String) (mode : UInt32) :
    Except IoError (Place × FileTree) :=
  (tree.locate path).bind fun t =>
    match t.last with
    | .dots => .error (.system .alreadyExists)
    | .name _ true => .error (.system .isFolder)
    | .name _ false =>
      (tree.lookAt t).bind fun
        | some _ => .error (.system .alreadyExists)
        | none => .ok (t.place, tree.put t.place (.file [] (tree.granted mode)))

/-- Make an empty file at a path, or empty the file that stands there. -/
def createOrEmpty (tree : FileTree) (path : String) : Except IoError (Place × FileTree) :=
  (tree.resolve path).bind fun t =>
    match t.last with
    | .dots => .error (.system .isFolder)
    | .name _ true => .error (.system .isFolder)
    | .name _ false =>
      (tree.lookAt t).bind fun
        | none => .ok (t.place, tree.put t.place (.file [] (tree.granted 0o666)))
        | some .folder => .error (.system .isFolder)
        | some (.file content mode) =>
          if (Node.file content mode).permits writeMask then
            .ok (t.place, tree.put t.place (.file [] (writtenMode mode)))
          else .error (.system .accessDenied)
        | some _ => .ok (t.place, tree)

/-- Put bytes at the end of the open file at a place. -/
def append (tree : FileTree) (place : Place) (bytes : Bytes) : FileTree × Except IoError Unit :=
  if bytes = [] then (tree, .ok ())
  else
    match tree.get? place with
    | some (.file content mode) =>
      (tree.put place (.file (content ++ bytes) (writtenMode mode)), .ok ())
    | some .full => (tree, .error (.system .noSpace))
    | _ => (tree, .ok ())

end FileTree

end SessionHandoff
