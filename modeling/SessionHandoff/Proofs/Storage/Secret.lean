import SessionHandoff.Proofs.Storage.Paths
import SessionHandoff.Proofs.Text.Utf8
import SessionHandoff.Storage.Secret

/-!
# A secret that was written is read

A secret goes to a place where nothing stood, and its path leads there before and after. Writing
moves no permission of the owner to read, so whether the secret can be read is decided by the
permissions that were granted (`readSecret_of_writeSecret`).
-/

set_option autoImplicit false

namespace SessionHandoff

variable {tree tree' : FileTree} {path : String} {mode : UInt32} {place : Place}

/-- Where a new file can be made the whole secret is stored in it, and its owner may read it if the
permissions that were granted say so. -/
theorem stores_of_writeSecret (h : tree.createNew path mode = .ok (place, tree'))
    (secret : String) :
    (writeSecret tree path secret mode).2 = .ok () ∧
      ∃ mode', FileTree.SameAccess (tree.granted mode) mode' ∧
        FileTree.Stores place (Utf8.ofString secret) mode' tree
          (writeSecret tree path secret mode).1 := by
  obtain ⟨-, absent, rfl⟩ := FileTree.names_of_createNew h
  have before := FileTree.isFile_of_absent absent
  obtain ⟨hok, mode', hmode', stores⟩ :=
    (FileTree.stores_put before [] (tree.granted mode)).append (Utf8.ofString secret)
  rw [writeSecret, h]
  simp only [hok]
  exact ⟨rfl, mode', hmode', stores⟩

/-- A secret is not written where no new file can be made. -/
theorem exists_createNew_of_writeSecret {secret : String}
    (h : (writeSecret tree path secret mode).2 = .ok ()) :
    ∃ place tree', tree.createNew path mode = .ok (place, tree') := by
  unfold writeSecret at h
  split at h
  · cases h
  · rename_i place tree' made
    exact ⟨place, tree', made⟩

/-- A secret is read without the blanks at its ends from the file that its path leads to, if its
owner may read it. -/
theorem readSecret_of_find {secret : String}
    (found : tree.find path = .ok (.file (Utf8.ofString secret) mode)) :
    readSecret tree path =
      if mode &&& readMask = 0 then .error (.io (.system .accessDenied))
      else .ok (Text.trimString secret) := by
  rw [readSecret, FileTree.readText, FileTree.readFile, FileTree.openNode_of_find found]
  split
  · rfl
  · simp [Node.content, Except.bind, Except.map, mapError_ok]

/-- Where a new file can be made a secret is written. It is read without the blanks at its ends, or
refused if the permissions that were granted keep its owner from reading it. -/
theorem readSecret_of_writeSecret (h : tree.createNew path mode = .ok (place, tree'))
    (secret : String) :
    (writeSecret tree path secret mode).2 = .ok () ∧
      readSecret (writeSecret tree path secret mode).1 path =
        if tree.granted mode &&& readMask = 0 then .error (.io (.system .accessDenied))
        else .ok (Text.trimString secret) := by
  obtain ⟨hok, mode', hmode', stores⟩ := stores_of_writeSecret h secret
  rw [readSecret_of_find (stores.find (FileTree.names_of_createNew h).1),
    hmode'.and_eq (by decide)]
  exact ⟨hok, rfl⟩

end SessionHandoff
