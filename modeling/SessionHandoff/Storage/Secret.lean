import SessionHandoff.Failure.Launch
import SessionHandoff.Storage.FileTree
import SessionHandoff.Text.Blank

/-!
# Secret files

A ciphertext travels in a file of its own. The file is made when the ciphertext is written, with the
permissions asked for, and never written again: writing fails where anything stands already. Reading
takes blank characters off both ends.
-/

set_option autoImplicit false

namespace SessionHandoff

/-- Write a ciphertext to a new file. -/
def writeSecret (tree : FileTree) (path ciphertext : String) (mode : UInt32) :
    FileTree × Except LaunchError Unit :=
  match tree.createNew path mode with
  | .error e => (tree, .error (.io e))
  | .ok (place, tree') =>
    let w := tree'.append place (Utf8.ofString ciphertext)
    (w.1, w.2.mapError .io)

/-- Read a ciphertext from a file. -/
def readSecret (tree : FileTree) (path : String) : Except LaunchError String :=
  ((tree.readText path).mapError .io).map Text.trimString

end SessionHandoff
