import SessionHandoff.CommandLine.Run

/-!
# The program

The program looks at the files that a command line names, runs the command on what it saw, and
writes the files that the command changed. Sessions run on the standard machine of the library.
-/

set_option autoImplicit false

namespace SessionHandoff.CommandLine

/-- What stands at a path of the host, if anything does. -/
def observe (path : String) : IO (Option Node) := do
  try
    let content ← IO.FS.readBinFile path
    return some (.file content.toList 0o644)
  catch
    | .noFileOrDirectory .. => return none
    | .inappropriateType .. => return some .folder
    | e => throw e

/-- A path and the paths of the folders it leads through, outermost first. -/
def leadingPaths (path : String) : List String :=
  let start := if path.startsWith "/" then "/" else ""
  let parts := FileTree.components path
  (List.range parts.length).map fun n => start ++ "/".intercalate (parts.take (n + 1))

/-- Look at a path and all that it leads through. -/
def observeAll (files : FileTree) (path : String) : IO FileTree := do
  let mut files := files
  for p in leadingPaths path do
    match files.resolve p with
    | .ok target =>
      if (files.get? target.place).isNone then
        if let some node ← observe p then
          files := files.put target.place node
    | .error _ => break
  return files

/-- The rights of a digit of a mode. -/
def accessOf (digit : UInt32) : IO.AccessRight :=
  ⟨digit &&& 4 ≠ 0, digit &&& 2 ≠ 0, digit &&& 1 ≠ 0⟩

/-- Write the files that differ between two views of the host. A new file gets its rights before its
content. -/
def storeChanges (before after : FileTree) : IO Unit :=
  after.nodes.forM fun (place, node) => do
    if before.get? place ≠ some node then
      if let .file content mode := node then
        let path := "/" ++ "/".intercalate place
        if (before.get? place).isNone then
          let _ ← IO.FS.Handle.mk path .writeNew
          IO.setAccessRights path ⟨accessOf (mode >>> 6), accessOf (mode >>> 3), accessOf mode⟩
        IO.FS.writeBinFile path ⟨content.toArray⟩

/-- The host of a command line. -/
def observeHost (arguments : List String) : IO Host := do
  let folder := FileTree.components (← IO.currentDir).toString
  let above := (List.range folder.length).map fun n => (folder.take (n + 1), Node.folder)
  let paths :=
    match Request.ofArguments arguments with
    | .ok request => Settings.defaultFile :: request.paths
    | .error _ => []
  let files ← paths.foldlM observeAll (standardFiles above folder)
  let random ← IO.getRandomBytes 64
  let policy ← IO.getEnv Settings.policyVariable
  return ⟨files, random.toList, policy.map Utf8.ofString⟩

/-- Print the output of a run. -/
def printOutput (finished : Finished) : IO Unit := do
  let out ← IO.getStdout
  let err ← IO.getStderr
  for (stream, bytes) in finished.output do
    let target := if stream = .out then out else err
    target.write ⟨bytes.toArray⟩
    target.flush

end SessionHandoff.CommandLine

open SessionHandoff SessionHandoff.CommandLine in
/-- Run the program. -/
def main (arguments : List String) : IO UInt32 := do
  let host ← observeHost arguments
  let (finished, after) := runStandard arguments host
  storeChanges host.files after.files
  printOutput finished
  return finished.code.toUInt32
