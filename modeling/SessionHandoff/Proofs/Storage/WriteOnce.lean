import SessionHandoff.Proofs.Password.Exchange
import SessionHandoff.Proofs.Storage.Folders
import SessionHandoff.Proofs.Storage.Secret

/-!
# Secrets are written once

Secrets are written and read under plain names in a folder, any number of times and in any order.
What was done so far tells what stands in the folder: under each name the first text that was
written for it, and nothing where none was (`Recorded`). Each step keeps this (`Recorded.take`), and
so does a run of steps (`Recorded.run`).

From it each next step is known. A name that was written is refused and everything stays, whereas a
new one gets its file and nothing else changes. Reading tells the first text without the blanks at
its ends, and all of it if it is a ciphertext (`secrets_written_once`).
-/

set_option autoImplicit false

namespace SessionHandoff

/-! ## Runs -/

/-- What is done with a name in the folder. -/
inductive SecretAction where
  | write (name text : String) (mode : UInt32)
  | read (name : String)

namespace SecretAction

/-- The name that the action is about. -/
def name : SecretAction → String
  | .write name _ _ => name
  | .read name => name

/-- The files after one step, whether it succeeds or not. A read has no way to change them. -/
def take (lead : String) (tree : FileTree) : SecretAction → FileTree
  | .write name text mode => (writeSecret tree (lead ++ name) text mode).1
  | .read _ => tree

/-- The files after some steps, one after the other. -/
def run (lead : String) (tree : FileTree) (actions : List SecretAction) : FileTree :=
  actions.foldl (take lead) tree

/-- The text and the permissions that the first write for a name asks for. -/
def firstWrite (name : String) : List SecretAction → Option (String × UInt32)
  | [] => none
  | .write other text mode :: rest =>
    if other = name then some (text, mode) else firstWrite name rest
  | .read _ :: rest => firstWrite name rest

/-- What was written first stays what was written first. -/
theorem firstWrite_append (name : String) (done later : List SecretAction) :
    firstWrite name (done ++ later) = (firstWrite name done).or (firstWrite name later) := by
  induction done with
  | nil => rfl
  | cons action done ih =>
    cases action with
    | write other text mode =>
      rw [List.cons_append, firstWrite, firstWrite]
      split
      · rfl
      · exact ih
    | read other => exact ih

end SecretAction

open SecretAction

/-- The permissions of a file that a text was written to when it was made. -/
def FileTree.secretMode (tree : FileTree) (text : String) (mode : UInt32) : UInt32 :=
  if text = "" then tree.granted mode else writtenMode (tree.granted mode)

/-- The file that a first write leaves behind. -/
def FileTree.secretFile (tree : FileTree) (text : String) (mode : UInt32) : Node :=
  .file (Utf8.ofString text) (tree.secretMode text mode)

/-- What stands after some steps: in the folder the files of the first writes, and elsewhere what
stood at the start. -/
structure Recorded (start : FileTree) (folder : Place) (done : List SecretAction)
    (now : FileTree) : Prop where
  workingFolder : now.workingFolder = start.workingFolder
  umask : now.umask = start.umask
  files : ∀ name, now.get? (folder ++ [name]) =
    (firstWrite name done).map fun w => start.secretFile w.1 w.2
  others : ∀ q, (∀ name, q ≠ folder ++ [name]) → now.get? q = start.get? q

/-! ## Writing to a place -/

section Writing

variable {tree : FileTree} {path : String} {place : Place}

theorem FileTree.secretMode_and_readMask (text : String) (mode : UInt32) :
    tree.secretMode text mode &&& readMask = tree.granted mode &&& readMask := by
  unfold secretMode
  split
  · rfl
  · exact (sameAccess_writtenMode _).and_eq (by decide)

theorem get?_writeSecret (locates : tree.Locates path place) (absent : tree.get? place = none)
    (text : String) (mode : UInt32) :
    (writeSecret tree path text mode).1.get? place = some (tree.secretFile text mode) := by
  have plain := FileTree.isFile_of_absent absent
  have emptied := FileTree.stores_put plain [] (tree.granted mode)
  rw [writeSecret, FileTree.createNew_eq_ok_iff.2 ⟨locates, absent, rfl⟩, FileTree.secretFile,
    FileTree.secretMode]
  dsimp only
  unfold FileTree.append
  by_cases empty : text = ""
  · -- nothing is put into the file that was made
    subst empty
    rw [if_pos (show Utf8.ofString "" = [] from rfl), if_pos rfl]
    exact emptied.present
  · have bytes : Utf8.ofString text ≠ [] := by
      intro none
      apply empty
      rw [← String.toList_eq_nil_iff]
      exact Utf8.encode_inj.1 none
    rw [if_neg bytes, if_neg empty, emptied.present]
    have root := FileTree.ne_root_of_before plain
    exact (FileTree.get?_put _ _ root place).trans (if_pos rfl)

/-- Where nothing stands the secret is written, and no other place changes. -/
theorem stores_secretMode (locates : tree.Locates path place) (absent : tree.get? place = none)
    (text : String) (mode : UInt32) :
    (writeSecret tree path text mode).2 = .ok () ∧
      FileTree.Stores place (Utf8.ofString text) (tree.secretMode text mode) tree
        (writeSecret tree path text mode).1 := by
  obtain ⟨done, mode', -, stores⟩ :=
    stores_of_writeSecret (FileTree.createNew_eq_ok_iff.2 ⟨locates, absent, rfl⟩) text
  refine ⟨done, ?_⟩
  have present := stores.present
  rw [get?_writeSecret locates absent text mode] at present
  cases present
  exact stores

/-- Where something stands nothing is written. -/
theorem writeSecret_of_taken (locates : tree.Locates path place) {node : Node}
    (taken : tree.get? place = some node) (text : String) (mode : UInt32) :
    writeSecret tree path text mode = (tree, .error (.io (.system .alreadyExists))) := by
  rw [writeSecret, FileTree.createNew_of_taken locates taken mode]

/-- Where nothing stands nothing is read. -/
theorem readSecret_of_absent (names : tree.Names path place) (absent : tree.get? place = none) :
    readSecret tree path = .error (.io (.system .noEntry)) := by
  have missing : tree.find path = .error (.system .noEntry) := by
    rw [names.find, absent]
  rw [readSecret, FileTree.readText, FileTree.readFile, FileTree.openNode, missing]
  rfl

end Writing

/-! ## Steps in the folder -/

section Steps

variable {start now : FileTree} {lead name : String} {folder : Place} {done : List SecretAction}

/-- At the start nothing was done. -/
theorem Recorded.initial (empty : ∀ name, start.get? (folder ++ [name]) = none) :
    Recorded start folder [] start := by
  refine ⟨rfl, rfl, ?_, fun q away => rfl⟩
  intro name
  exact empty name

/-- Nothing but plain files was added, so all paths lead where they led at the start. -/
theorem Recorded.samePaths (recorded : Recorded start folder done now)
    (empty : ∀ name, start.get? (folder ++ [name]) = none) :
    FileTree.SamePaths start now := by
  refine ⟨recorded.workingFolder, fun q => ?_⟩
  by_cases inside : ∃ name, q = folder ++ [name]
  · obtain ⟨name, rfl⟩ := inside
    right
    constructor
    · exact FileTree.isFile_of_absent (empty name)
    · intro node found
      rw [recorded.files name] at found
      obtain ⟨w, -, rfl⟩ := Option.map_eq_some_iff.1 found
      exact ⟨_, _, rfl⟩
  · left
    apply recorded.others
    intro name same
    exact inside ⟨name, same⟩

/-- The path of a plain name ends in the folder at every time. -/
theorem Recorded.locates (recorded : Recorded start folder done now)
    (leads : start.Leads lead folder) (empty : ∀ name, start.get? (folder ++ [name]) = none)
    (plain : FileTree.PlainName lead name) : now.Locates (lead ++ name) (folder ++ [name]) :=
  (leads.locates plain).of_samePaths (recorded.samePaths empty)

/-- Only plain files stand in the folder, so no link leads elsewhere. -/
theorem Recorded.names (recorded : Recorded start folder done now)
    (locates : now.Locates (lead ++ name) (folder ++ [name])) :
    now.Names (lead ++ name) (folder ++ [name]) := by
  apply locates.names
  intro node found
  rw [recorded.files name] at found
  obtain ⟨w, -, rfl⟩ := Option.map_eq_some_iff.1 found
  exact ⟨_, _, rfl⟩

/-- Permissions are granted as at the start. -/
theorem Recorded.secretMode_eq (recorded : Recorded start folder done now) (text : String)
    (mode : UInt32) : now.secretMode text mode = start.secretMode text mode := by
  unfold FileTree.secretMode FileTree.granted
  rw [recorded.umask]

/-- Where the name was not written for, its file is made and no other place changes. -/
theorem Recorded.stores (recorded : Recorded start folder done now)
    (locates : now.Locates (lead ++ name) (folder ++ [name])) (fresh : firstWrite name done = none)
    (text : String) (mode : UInt32) :
    (writeSecret now (lead ++ name) text mode).2 = .ok () ∧
      FileTree.Stores (folder ++ [name]) (Utf8.ofString text) (start.secretMode text mode) now
        (writeSecret now (lead ++ name) text mode).1 := by
  have absent : now.get? (folder ++ [name]) = none := by
    rw [recorded.files, fresh]
    rfl
  rw [← recorded.secretMode_eq]
  exact stores_secretMode locates absent text mode

/-- Where the name was written for, nothing is written. -/
theorem Recorded.refused (recorded : Recorded start folder done now)
    (locates : now.Locates (lead ++ name) (folder ++ [name])) {w : String × UInt32}
    (before : firstWrite name done = some w) (text : String) (mode : UInt32) :
    writeSecret now (lead ++ name) text mode = (now, .error (.io (.system .alreadyExists))) := by
  have taken : now.get? (folder ++ [name]) = some (start.secretFile w.1 w.2) := by
    rw [recorded.files, before]
    rfl
  exact writeSecret_of_taken locates taken text mode

/-- A first write is recorded. -/
theorem Recorded.write (recorded : Recorded start folder done now)
    (locates : now.Locates (lead ++ name) (folder ++ [name])) (fresh : firstWrite name done = none)
    (text : String) (mode : UInt32) :
    Recorded start folder (done ++ [.write name text mode])
      (writeSecret now (lead ++ name) text mode).1 := by
  obtain ⟨-, stores⟩ := recorded.stores locates fresh text mode
  refine ⟨stores.workingFolder.trans recorded.workingFolder,
    stores.umask.trans recorded.umask, ?_, ?_⟩
  · intro other
    rw [firstWrite_append, firstWrite]
    by_cases same : name = other
    · subst same
      rw [if_pos rfl, fresh, Option.none_or, stores.present]
      rfl
    · have elsewhere : folder ++ [other] ≠ folder ++ [name] := by
        intro equal
        exact same (List.cons.inj (List.append_cancel_left equal)).1.symm
      rw [if_neg same, firstWrite, Option.or_none, stores.others _ elsewhere, recorded.files]
  · intro q away
    rw [stores.others q (away name), recorded.others q away]

/-- A step that leaves the files alone, for a name that it writes no first text for. -/
theorem Recorded.stays (recorded : Recorded start folder done now) {action : SecretAction}
    (known : ∀ name, (firstWrite name done).or (firstWrite name [action]) = firstWrite name done) :
    Recorded start folder (done ++ [action]) now := by
  refine ⟨recorded.workingFolder, recorded.umask, ?_, recorded.others⟩
  intro name
  rw [firstWrite_append, known, recorded.files]

/-- Every step keeps the record. -/
theorem Recorded.take (recorded : Recorded start folder done now)
    (leads : start.Leads lead folder) (empty : ∀ name, start.get? (folder ++ [name]) = none)
    {action : SecretAction} (plain : FileTree.PlainName lead action.name) :
    Recorded start folder (done ++ [action]) (SecretAction.take lead now action) := by
  cases action with
  | read name =>
    apply recorded.stays
    intro other
    exact Option.or_none
  | write name text mode =>
    have locates : now.Locates (lead ++ name) (folder ++ [name]) :=
      recorded.locates leads empty plain
    cases before : firstWrite name done with
    | none => exact recorded.write locates before text mode
    | some w =>
      rw [SecretAction.take, recorded.refused locates before]
      apply recorded.stays
      intro other
      rw [firstWrite]
      split
      · next same =>
          subst same
          rw [before]
          rfl
      · exact Option.or_none

/-- A run of steps keeps the record, by induction on the steps that are to come. -/
theorem Recorded.run (recorded : Recorded start folder done now)
    (leads : start.Leads lead folder) (empty : ∀ name, start.get? (folder ++ [name]) = none)
    {actions : List SecretAction}
    (plain : ∀ action ∈ actions, FileTree.PlainName lead action.name) :
    Recorded start folder (done ++ actions) (SecretAction.run lead now actions) := by
  induction actions generalizing done now with
  | nil =>
    rw [List.append_nil]
    exact recorded
  | cons action rest ih =>
    have taken := recorded.take leads empty (plain action List.mem_cons_self)
    have later := ih taken fun next inside => plain next (List.mem_cons_of_mem _ inside)
    rw [List.append_assoc, List.singleton_append] at later
    exact later

/-- Reading tells the first text, if its owner may read it. -/
theorem Recorded.read (recorded : Recorded start folder done now)
    (locates : now.Locates (lead ++ name) (folder ++ [name])) :
    readSecret now (lead ++ name) =
      match firstWrite name done with
      | none => .error (.io (.system .noEntry))
      | some (text, mode) =>
        if start.granted mode &&& readMask = 0 then .error (.io (.system .accessDenied))
        else .ok (Text.trimString text) := by
  have names := recorded.names locates
  have files := recorded.files name
  cases before : firstWrite name done with
  | none =>
    rw [before] at files
    exact readSecret_of_absent names files
  | some w =>
    obtain ⟨text, mode⟩ := w
    rw [before] at files
    have found : now.find (lead ++ name) = .ok (start.secretFile text mode) := by
      rw [names.find, files]
      rfl
    rw [readSecret_of_find found, FileTree.secretMode_and_readMask]

end Steps

/-! ## Ciphertexts -/

/-- The device in use handed this text out for some profile. -/
def IsCiphertext (text : String) : Prop :=
  ∃ before after, (encryptPassword CipherDevice.aesGcm).on before = (.ok text, after)

/-- A ciphertext has no blanks at its ends. -/
theorem IsCiphertext.trimString_eq {text : String} (ciphertext : IsCiphertext text) :
    Text.trimString text = text := by
  obtain ⟨before, after, encrypted⟩ := ciphertext
  obtain ⟨key, nonce, -, -, -, rfl, -⟩ := encryptPassword_eq_ok_iff.1 encrypted
  exact Base64.trimString_encode _

/-- **Secrets are written once.** Let paths with `lead` in front lead into a folder that is empty.
After any steps with plain names in it:

* What stands under a name is the file of the first write for it, and nothing where there was none.
  All places outside of the folder hold what they held.
* Writing for a name that was not written succeeds, makes this file and changes no other place.
  Writing for any other name fails and changes nothing.
* Reading a name that was not written fails. Reading any other tells the text of its first write
  without blanks at the ends, which are none if it is a ciphertext. It fails if the permissions that
  were granted keep the owner from reading. -/
theorem secrets_written_once {start : FileTree} {lead : String} {folder : Place}
    (leads : start.Leads lead folder) (empty : ∀ name, start.get? (folder ++ [name]) = none)
    (actions : List SecretAction)
    (plain : ∀ action ∈ actions, FileTree.PlainName lead action.name) :
    (∀ name, (run lead start actions).get? (folder ++ [name]) =
      (firstWrite name actions).map fun w => start.secretFile w.1 w.2) ∧
    (∀ q, (∀ name, q ≠ folder ++ [name]) →
      (run lead start actions).get? q = start.get? q) ∧
    (∀ name text mode, FileTree.PlainName lead name →
      (firstWrite name actions = none →
        (writeSecret (run lead start actions) (lead ++ name) text mode).2 = .ok () ∧
        (writeSecret (run lead start actions) (lead ++ name) text mode).1.get? (folder ++ [name]) =
          some (start.secretFile text mode) ∧
        ∀ q, q ≠ folder ++ [name] →
          (writeSecret (run lead start actions) (lead ++ name) text mode).1.get? q =
            (run lead start actions).get? q) ∧
      (firstWrite name actions ≠ none →
        writeSecret (run lead start actions) (lead ++ name) text mode =
          (run lead start actions, .error (.io (.system .alreadyExists))))) ∧
    ∀ name, FileTree.PlainName lead name →
      (firstWrite name actions = none →
        readSecret (run lead start actions) (lead ++ name) =
          .error (.io (.system .noEntry))) ∧
      ∀ text mode, firstWrite name actions = some (text, mode) →
        (start.granted mode &&& readMask ≠ 0 →
          readSecret (run lead start actions) (lead ++ name) = .ok (Text.trimString text) ∧
          (IsCiphertext text → readSecret (run lead start actions) (lead ++ name) = .ok text)) ∧
        (start.granted mode &&& readMask = 0 →
          readSecret (run lead start actions) (lead ++ name) =
            .error (.io (.system .accessDenied))) := by
  have recorded : Recorded start folder actions (run lead start actions) :=
    (Recorded.initial empty).run leads empty plain
  have locates {name : String} (plain : FileTree.PlainName lead name) :=
    recorded.locates leads empty plain
  refine ⟨recorded.files, recorded.others, ?_, ?_⟩
  · intro name text mode plain
    constructor
    · intro fresh
      obtain ⟨written, stores⟩ := recorded.stores (locates plain) fresh text mode
      exact ⟨written, stores.present, stores.others⟩
    · intro known
      obtain ⟨w, before⟩ := Option.ne_none_iff_exists'.1 known
      exact recorded.refused (locates plain) before text mode
  · intro name plain
    have told := recorded.read (locates plain)
    constructor
    · intro fresh
      rw [told, fresh]
    · intro text mode before
      rw [before] at told
      dsimp only at told
      constructor
      · intro readable
        rw [if_neg readable] at told
        refine ⟨told, ?_⟩
        intro ciphertext
        rw [told, ciphertext.trimString_eq]
      · intro unreadable
        rw [told, if_pos unreadable]

/-- A folder with nothing in it. -/
def emptyVault : FileTree where
  nodes := [(["vault"], .folder)]
  workingFolder := []
  umask := 0o022

/-- A text with blanks at its ends and a ciphertext are written to the folder, and then the first
name once more. -/
theorem secrets_written_once_vault :
    let ciphertext := Base64.encode (Aes.encipher (List.replicate 32 7) (List.replicate 12 7) [])
    let actions : List SecretAction :=
      [.write "a" " sealed\n" 0o600, .read "c", .write "b" ciphertext 0o640,
        .write "a" "again" 0o644]
    emptyVault.Leads "vault/" ["vault"] ∧
      (∀ name, emptyVault.get? (["vault"] ++ [name]) = none) ∧
      (∀ action ∈ actions, FileTree.PlainName "vault/" action.name) ∧ IsCiphertext ciphertext ∧
      (run "vault/" emptyVault actions).get? ["vault", "a"] =
        some (.file (Utf8.ofString " sealed\n") 0o600) ∧
      (writeSecret (run "vault/" emptyVault actions) "vault/b" "again" 0o600).2 =
        .error (.io (.system .alreadyExists)) ∧
      readSecret (run "vault/" emptyVault actions) "vault/a" = .ok "sealed" ∧
      readSecret (run "vault/" emptyVault actions) "vault/b" = .ok ciphertext ∧
      readSecret (run "vault/" emptyVault actions) "vault/c" =
        .error (.io (.system .noEntry)) := by
  intro ciphertext actions
  have leads : emptyVault.Leads "vault/" ["vault"] := ⟨.inr ⟨"vault", rfl⟩, rfl⟩
  have empty (name : String) : emptyVault.get? (["vault"] ++ [name]) = none := rfl
  have short (name : String) (one : name ∈ ["a", "b", "c"]) :
      FileTree.PlainName "vault/" name := by
    simp only [List.mem_cons, List.not_mem_nil, or_false] at one
    rcases one with rfl | rfl | rfl
    · exact ⟨by decide, by decide, by decide, by decide, by decide, by decide⟩
    · exact ⟨by decide, by decide, by decide, by decide, by decide, by decide⟩
    · exact ⟨by decide, by decide, by decide, by decide, by decide, by decide⟩
  have plain : ∀ action ∈ actions, FileTree.PlainName "vault/" action.name := by
    intro action inside
    apply short
    simp only [actions, List.mem_cons, List.not_mem_nil, or_false] at inside
    rcases inside with rfl | rfl | rfl | rfl
    · exact List.mem_cons_self
    · simp [SecretAction.name]
    · simp [SecretAction.name]
    · exact List.mem_cons_self
  have handedOut : IsCiphertext ciphertext :=
    ⟨_, _, encryptPassword_of_random { } (List.length_replicate) (List.length_replicate) []⟩
  obtain ⟨files, -, writes, reads⟩ := secrets_written_once leads empty actions plain
  have known : firstWrite "b" actions = some (ciphertext, 0o640) := rfl
  refine ⟨leads, empty, plain, handedOut, ?_, ?_, ?_, ?_, ?_⟩
  · exact files "a"
  · have refused := (writes "b" "again" 0o600 (short "b" (by simp))).2 (by rw [known]; exact nofun)
    exact congrArg Prod.snd refused
  · exact (((reads "a" (short "a" (by simp))).2 _ _ rfl).1 (by decide)).1
  · exact (((reads "b" (short "b" (by simp))).2 _ _ known).1 (by decide)).2 handedOut
  · exact (reads "c" (short "c" (by simp))).1 rfl

end SessionHandoff
