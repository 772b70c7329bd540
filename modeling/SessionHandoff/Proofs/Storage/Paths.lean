import SessionHandoff.Proofs.Outcome
import SessionHandoff.Storage.FileTree

/-!
# Paths through trees that differ in plain files

A path is walked through folders and links. So in two trees that have the same folders, links and
devices, a path that leads somewhere in the one leads there in the other
(`FileTree.SamePaths.resolve`), whatever plain files there are.

`FileTree.Stores` says that one tree is another with a plain file in a place where nothing but a
plain file stood. What a path leads to is then this file (`FileTree.Stores.find`), or what it led to
before (`FileTree.Stores.find_elsewhere`). A file that is made or emptied is stored in this sense
(`FileTree.stores_of_createOrEmpty`). A file that has to be new is made exactly where nothing stood,
not even a link (`FileTree.createNew_eq_ok_iff`).
-/

set_option autoImplicit false

namespace SessionHandoff

/-- A plain file. -/
def Node.IsFile (node : Node) : Prop := ∃ content mode, node = .file content mode

namespace FileTree

/-- Where nothing stands, nothing but a plain file stands. -/
theorem isFile_of_absent {tree : FileTree} {place : Place} (absent : tree.get? place = none)
    (node : Node) (found : tree.get? place = some node) : node.IsFile := by
  rw [absent] at found
  cases found

/-! ## Trees with the same paths -/

/-- Two trees that differ in nothing but plain files. -/
structure SamePaths (tree tree' : FileTree) : Prop where
  workingFolder : tree'.workingFolder = tree.workingFolder
  places : ∀ q, tree'.get? q = tree.get? q ∨
    (∀ node, tree.get? q = some node → node.IsFile) ∧
      ∀ node, tree'.get? q = some node → node.IsFile

section SamePaths

variable {tree tree' : FileTree}

theorem SamePaths.symm (same : SamePaths tree tree') : SamePaths tree' tree := by
  refine ⟨same.workingFolder.symm, fun q => ?_⟩
  rcases same.places q with kept | ⟨before, after⟩
  · exact .inl kept.symm
  · exact .inr ⟨after, before⟩

/-- A folder is no plain file. -/
theorem SamePaths.expectFolder (same : SamePaths tree tree') {q : Place} {u : Unit}
    (hq : tree.expectFolder q = .ok u) : tree'.expectFolder q = .ok u := by
  unfold FileTree.expectFolder at hq ⊢
  rcases same.places q with kept | ⟨before, -⟩
  · rw [kept]
    exact hq
  · split at hq
    · cases hq
    · rename_i folder
      obtain ⟨_, _, ⟨⟩⟩ := before _ folder
    · cases hq

/-- A link is no plain file. -/
theorem SamePaths.follow (same : SamePaths tree tree') (q : Place) :
    tree'.follow q = tree.follow q := by
  have stays {t : FileTree} (file : ∀ node, t.get? q = some node → node.IsFile) :
      t.follow q = q := by
    unfold FileTree.follow
    split
    · rename_i target link
      obtain ⟨_, _, ⟨⟩⟩ := file _ link
    · rfl
  rcases same.places q with kept | ⟨before, after⟩
  · rw [FileTree.follow, FileTree.follow, kept]
  · rw [stays before, stays after]

theorem SamePaths.followTarget (same : SamePaths tree tree') (t : Target) :
    tree'.followTarget t = tree.followTarget t := by
  have stays {tree : FileTree} (file : ∀ node, tree.get? t.place = some node → node.IsFile) :
      tree.followTarget t = t := by
    unfold FileTree.followTarget
    split
    · rename_i place _ link
      obtain ⟨_, _, ⟨⟩⟩ := file _ link
    · rfl
  rcases same.places t.place with kept | ⟨before, after⟩
  · rw [FileTree.followTarget, FileTree.followTarget, kept]
  · rw [stays before, stays after]

theorem SamePaths.stepInto (same : SamePaths tree tree') {q next : Place} {c : String}
    (hq : tree.stepInto q c = .ok next) : tree'.stepInto q c = .ok next := by
  obtain ⟨u, hfolder, hnext⟩ := bind_eq_ok.1 hq
  rw [← same.follow] at hnext
  exact bind_eq_ok.2 ⟨u, same.expectFolder hfolder, hnext⟩

/-- By induction on the components: a walk that arrived arrives there again. -/
theorem SamePaths.walk (same : SamePaths tree tree') {components : List String}
    {q arrived : Place} (hq : tree.walk q components = .ok arrived) :
    tree'.walk q components = .ok arrived := by
  induction components generalizing q with
  | nil => exact hq
  | cons c rest ih =>
    obtain ⟨next, hstep, hrest⟩ := bind_eq_ok.1 hq
    exact bind_eq_ok.2 ⟨next, same.stepInto hstep, ih hrest⟩

/-- A walk that arrived at a folder arrives at it again. -/
theorem SamePaths.walkToFolder (same : SamePaths tree tree') {components : List String}
    {q folder : Place}
    (hq : ((tree.walk q components).bind fun f => (tree.expectFolder f).map fun _ => f) =
      .ok folder) :
    ((tree'.walk q components).bind fun f => (tree'.expectFolder f).map fun _ => f) =
      .ok folder := by
  obtain ⟨arrived, hwalk, hmap⟩ := bind_eq_ok.1 hq
  obtain ⟨u, hfolder, rfl⟩ := map_eq_ok.1 hmap
  exact bind_eq_ok.2 ⟨arrived, same.walk hwalk, map_eq_ok.2 ⟨u, same.expectFolder hfolder, rfl⟩⟩

theorem SamePaths.locate (same : SamePaths tree tree') {path : String} {t : Target}
    (ht : tree.locate path = .ok t) : tree'.locate path = .ok t := by
  unfold FileTree.locate at ht ⊢
  -- The checks on the text of the path do not look at the tree.
  simp only [same.workingFolder] at ht ⊢
  split at ht
  · cases ht
  rename_i hnul
  split at ht
  · cases ht
  rename_i hempty
  split at ht
  · cases ht
  rename_i hlong
  rw [if_neg hnul, if_neg hempty, if_neg hlong]
  cases hlast : (components path).getLast? with
  | none =>
    rw [hlast] at ht
    exact ht
  | some last =>
    rw [hlast] at ht
    simp only at ht ⊢
    -- A name is looked up in the folder before it, and dots are walked like the rest.
    split at ht
    · rename_i hname
      rw [if_pos hname]
      split at ht
      · cases ht
      · rename_i folder hfolder
        rw [same.walkToFolder hfolder]
        exact ht
    · rename_i hdots
      rw [if_neg hdots]
      split at ht
      · cases ht
      · rename_i folder hfolder
        rw [same.walk hfolder]
        exact ht

/-- A path leads to the same place in both trees. -/
theorem SamePaths.resolve (same : SamePaths tree tree') {path : String} {t : Target} :
    tree'.resolve path = .ok t ↔ tree.resolve path = .ok t := by
  have onward {tree tree' : FileTree} (same : SamePaths tree tree')
      (ht : tree.resolve path = .ok t) : tree'.resolve path = .ok t := by
    obtain ⟨located, hlocate, rfl⟩ := map_eq_ok.1 ht
    exact map_eq_ok.2 ⟨located, same.locate hlocate, same.followTarget located⟩
  exact ⟨onward same.symm, onward same⟩

end SamePaths

/-! ## Places that paths name -/

/-- Whether a target is looked at depends on its name alone. -/
theorem lookAt_eq_ok {tree : FileTree} {t : Target} {found : Option Node}
    (h : tree.lookAt t = .ok found) :
    found = tree.get? t.place ∧ ∀ other : FileTree, other.lookAt t = .ok (other.get? t.place) := by
  obtain ⟨folder, last⟩ := t
  cases last with
  | dots => exact ⟨(Except.ok.inj h).symm, fun _ => rfl⟩
  | name name slash =>
    unfold lookAt at h ⊢
    dsimp only at h ⊢
    split at h
    · cases h
    · rename_i short
      exact ⟨(Except.ok.inj h).symm, fun _ => if_neg short⟩

/-- What is found stands at the place that the path leads to. -/
theorem stands_of_find {tree : FileTree} {path : String} {t : Target} {node : Node}
    (resolved : tree.resolve path = .ok t) (found : tree.find path = .ok node) :
    tree.get? t.place = some node := by
  obtain ⟨u, leads, rest⟩ := bind_eq_ok.1 found
  obtain rfl := Except.ok.inj (leads.symm.trans resolved)
  obtain ⟨stood, looked, rest⟩ := bind_eq_ok.1 rest
  obtain ⟨rfl, -⟩ := lookAt_eq_ok looked
  split at rest
  · cases rest
  · rename_i folder
    cases rest
    exact folder
  · rename_i node _ stands
    split at rest
    · cases rest
    · cases rest
      exact stands

/-- The path names a place in a folder, without asking that a folder stands there. -/
def Names (tree : FileTree) (path : String) (place : Place) : Prop :=
  ∃ folder name, tree.resolve path = .ok ⟨folder, .name name false⟩ ∧
    isOverlong name = false ∧ place = folder ++ [name]

section Names

variable {tree tree' : FileTree} {path : String} {place : Place}

theorem Names.of_samePaths (names : tree.Names path place) (same : SamePaths tree tree') :
    tree'.Names path place := by
  obtain ⟨folder, name, resolved, short, rfl⟩ := names
  exact ⟨folder, name, same.resolve.2 resolved, short, rfl⟩

/-- A path that names a place resolves to it. -/
theorem Names.resolve (names : tree.Names path place) :
    ∃ t, tree.resolve path = .ok t ∧ t.place = place := by
  obtain ⟨folder, name, resolved, -, rfl⟩ := names
  exact ⟨_, resolved, rfl⟩

theorem Names.place_eq (names : tree.Names path place) {t : Target}
    (resolved : tree.resolve path = .ok t) : t.place = place := by
  obtain ⟨u, leads, same⟩ := names.resolve
  cases leads.symm.trans resolved
  exact same

/-- What stands at the place is what the path leads to. -/
theorem Names.find (names : tree.Names path place) :
    tree.find path = match tree.get? place with
      | none => .error (.system .noEntry)
      | some node => .ok node := by
  obtain ⟨folder, name, resolved, short, rfl⟩ := names
  simp only [FileTree.find, resolved, Except.bind, lookAt, short, Target.place,
    Bool.false_eq_true, if_false]
  cases tree.get? (folder ++ [name]) with
  | none => rfl
  | some node => cases node <;> rfl

end Names

/-- The path itself ends in a place in a folder. A link that stands there is not followed. -/
def Locates (tree : FileTree) (path : String) (place : Place) : Prop :=
  ∃ folder name, tree.locate path = .ok ⟨folder, .name name false⟩ ∧
    isOverlong name = false ∧ place = folder ++ [name]

section Locates

variable {tree tree' : FileTree} {path : String} {place : Place}

theorem Locates.of_samePaths (locates : tree.Locates path place) (same : SamePaths tree tree') :
    tree'.Locates path place := by
  obtain ⟨folder, name, located, short, rfl⟩ := locates
  exact ⟨folder, name, same.locate located, short, rfl⟩

/-- Where a plain file or nothing stands there is no link to follow. -/
theorem Locates.names (locates : tree.Locates path place)
    (plain : ∀ node, tree.get? place = some node → node.IsFile) : tree.Names path place := by
  obtain ⟨folder, name, located, short, rfl⟩ := locates
  have stays : tree.followTarget ⟨folder, .name name false⟩ = ⟨folder, .name name false⟩ := by
    unfold followTarget
    split
    · next link =>
        obtain ⟨_, _, ⟨⟩⟩ := plain _ link
    · rfl
  exact ⟨folder, name, map_eq_ok.2 ⟨_, located, stays⟩, short, rfl⟩

end Locates

/-- The plain file that a path leads to is opened if its owner may read it. -/
theorem openNode_of_find {tree : FileTree} {path : String} {content : Bytes} {mode : UInt32}
    (found : tree.find path = .ok (.file content mode)) :
    tree.openNode path =
      if mode &&& readMask = 0 then .error (.system .accessDenied)
      else .ok (.file content mode) := by
  rw [openNode, found, Except.bind, Node.permits]
  by_cases unreadable : mode &&& readMask = 0
  · simp [unreadable]
  · simp [unreadable]

/-- A text is read from what a path leads to, if its owner may read it and it holds one. -/
theorem readText_eq_ok_iff {tree : FileTree} {path text : String} :
    tree.readText path = .ok text ↔
      ∃ node bytes, tree.find path = .ok node ∧ node.permits readMask = true ∧
        node.content = .ok bytes ∧ Utf8.toString? bytes = some text := by
  unfold readText readFile openNode
  constructor
  · intro read
    obtain ⟨bytes, read, decoded⟩ := bind_eq_ok.1 read
    obtain ⟨node, opened, content⟩ := bind_eq_ok.1 read
    obtain ⟨found, leads, permitted⟩ := bind_eq_ok.1 opened
    split at permitted
    · rename_i permits
      cases permitted
      split at decoded
      · rename_i text spelled
        cases decoded
        exact ⟨node, bytes, leads, permits, content, spelled⟩
      · cases decoded
    · cases permitted
  · rintro ⟨node, bytes, leads, permits, content, decoded⟩
    have opened : ((tree.find path).bind fun node =>
        if node.permits readMask then .ok node else .error (.system .accessDenied)) =
          .ok node := bind_eq_ok.2 ⟨node, leads, if_pos permits⟩
    refine bind_eq_ok.2 ⟨bytes, bind_eq_ok.2 ⟨node, opened, content⟩, ?_⟩
    rw [decoded]

/-! ## Trees that store a file -/

/-- Whether one tree is another with a plain file in a place where nothing or a plain file stood. -/
structure Stores (place : Place) (content : Bytes) (mode : UInt32) (tree tree' : FileTree) :
    Prop where
  workingFolder : tree'.workingFolder = tree.workingFolder
  umask : tree'.umask = tree.umask
  before : ∀ node, tree.get? place = some node → node.IsFile
  present : tree'.get? place = some (.file content mode)
  others : ∀ q, q ≠ place → tree'.get? q = tree.get? q

section Stores

variable {place : Place} {content : Bytes} {mode : UInt32} {tree tree' : FileTree}

/-- The root is a folder, and no plain file is stored there. -/
theorem ne_root_of_before (before : ∀ node, tree.get? place = some node → node.IsFile) :
    place ≠ [] := by
  rintro rfl
  obtain ⟨_, _, ⟨⟩⟩ := before .folder rfl

theorem get?_put (tree : FileTree) {place : Place} (node : Node) (h : place ≠ []) (q : Place) :
    (tree.put place node).get? q = if q = place then some node else tree.get? q := by
  unfold get? put
  by_cases hq : q = []
  · have hne : q ≠ place := fun heq => h (heq ▸ hq)
    rw [if_pos hq, if_neg hne, if_pos hq]
  · rw [if_neg hq, if_neg hq, lookup_setEntry]

/-- A tree stores the file that is put where nothing or a plain file stood. -/
theorem stores_put (before : ∀ node, tree.get? place = some node → node.IsFile) (content : Bytes)
    (mode : UInt32) : Stores place content mode tree (tree.put place (.file content mode)) := by
  have root := ne_root_of_before before
  refine ⟨rfl, rfl, before, ?_, fun q hq => ?_⟩
  · rw [get?_put tree _ root, if_pos rfl]
  · rw [get?_put tree _ root, if_neg hq]

theorem Stores.samePaths (stores : Stores place content mode tree tree') :
    SamePaths tree tree' := by
  refine ⟨stores.workingFolder, fun q => ?_⟩
  by_cases same : q = place
  · subst same
    refine .inr ⟨stores.before, fun node found => ?_⟩
    rw [stores.present] at found
    exact ⟨content, mode, (Option.some.inj found).symm⟩
  · exact .inl (stores.others q same)

/-- Two modes that let everybody do the same. -/
def SameAccess (mode mode' : UInt32) : Prop := mode' &&& 0o777 = mode &&& 0o777

theorem SameAccess.and_eq {mode mode' mask : UInt32} (same : SameAccess mode mode')
    (within : mask &&& 0o777 = mask) : mode' &&& mask = mode &&& mask := by
  rw [← within, UInt32.and_comm mask, ← UInt32.and_assoc, ← UInt32.and_assoc, same]

/-- Writing takes no permission away. -/
theorem sameAccess_writtenMode (mode : UInt32) : SameAccess mode (writtenMode mode) := by
  have hsetuid : (~~~0o4000 : UInt32) &&& 0o777 = 0o777 := by decide
  have hsetgid : (~~~0o2000 : UInt32) &&& 0o777 = 0o777 := by decide
  unfold SameAccess writtenMode
  simp only
  split
  · rw [UInt32.and_assoc, hsetuid]
  · rw [UInt32.and_assoc, hsetgid, UInt32.and_assoc, hsetuid]

/-- Bytes put at the end of a stored file are stored with it. -/
theorem Stores.append (stores : Stores place content mode tree tree') (bytes : Bytes) :
    (tree'.append place bytes).2 = .ok () ∧
      ∃ mode', SameAccess mode mode' ∧
        Stores place (content ++ bytes) mode' tree (tree'.append place bytes).1 := by
  unfold FileTree.append
  by_cases hnil : bytes = []
  · rw [if_pos hnil, hnil, List.append_nil]
    exact ⟨rfl, mode, rfl, stores⟩
  · rw [if_neg hnil, stores.present]
    have root := ne_root_of_before stores.before
    refine ⟨rfl, writtenMode mode, sameAccess_writtenMode mode, stores.workingFolder,
      stores.umask, stores.before, ?_, fun q hq => ?_⟩
    · rw [get?_put tree' _ root, if_pos rfl]
    · rw [get?_put tree' _ root, if_neg hq, stores.others q hq]

variable {path : String}

/-- A stored file is what a path leads to that names its place. -/
theorem Stores.find (stores : Stores place content mode tree tree')
    (names : tree.Names path place) : tree'.find path = .ok (.file content mode) := by
  rw [(names.of_samePaths stores.samePaths).find, stores.present]

/-- A path that does not lead to the place leads to what it led to before. -/
theorem Stores.find_elsewhere (stores : Stores place content mode tree tree')
    (elsewhere : ∀ t, tree.resolve path = .ok t → t.place ≠ place) {node : Node} :
    tree'.find path = .ok node ↔ tree.find path = .ok node := by
  have look {t : Target} (away : t.place ≠ place) : tree'.lookAt t = tree.lookAt t := by
    rw [lookAt, lookAt, stores.others _ away]
  unfold FileTree.find
  constructor
  · intro found
    obtain ⟨t, resolved, rest⟩ := bind_eq_ok.1 found
    have resolved := stores.samePaths.resolve.1 resolved
    rw [look (elsewhere t resolved)] at rest
    exact bind_eq_ok.2 ⟨t, resolved, rest⟩
  · intro found
    obtain ⟨t, resolved, rest⟩ := bind_eq_ok.1 found
    rw [← look (elsewhere t resolved)] at rest
    exact bind_eq_ok.2 ⟨t, stores.samePaths.resolve.2 resolved, rest⟩

/-- What stood at the place was a plain file, and where a path led to it the stored file is
found. -/
theorem Stores.find_again (stores : Stores place content mode tree tree') {t : Target}
    (resolved : tree.resolve path = .ok t) (same : t.place = place) {node : Node}
    (found : tree.find path = .ok node) : tree'.find path = .ok (.file content mode) := by
  subst same
  obtain ⟨u, leads, rest⟩ := bind_eq_ok.1 found
  obtain rfl := Except.ok.inj (leads.symm.trans resolved)
  obtain ⟨stood, looked, rest⟩ := bind_eq_ok.1 rest
  obtain ⟨rfl, again⟩ := lookAt_eq_ok looked
  refine bind_eq_ok.2 ⟨u, stores.samePaths.resolve.2 resolved, bind_eq_ok.2 ⟨_, again tree', ?_⟩⟩
  rw [stores.present]
  cases before : tree.get? u.place with
  | none =>
    rw [before] at rest
    cases rest
  | some stood =>
    obtain ⟨_, _, rfl⟩ := stores.before stood before
    rw [before] at rest
    -- a slash behind the path would have asked for a folder
    dsimp only at rest ⊢
    split at rest
    · cases rest
    · rfl

/-- Nothing but the stored file is found by a path that leads to the place. -/
theorem Stores.eq_file_of_find (stores : Stores place content mode tree tree') {t : Target}
    (resolved : tree.resolve path = .ok t) (same : t.place = place) {node : Node}
    (found : tree'.find path = .ok node) : node = .file content mode := by
  have stands := stands_of_find (stores.samePaths.resolve.2 resolved) found
  rw [same, stores.present] at stands
  exact (Option.some.inj stands).symm

end Stores

/-! ## Making files -/

theorem lookAt_name_eq_ok_iff {tree : FileTree} {folder : Place} {name : String}
    {found : Option Node} :
    tree.lookAt ⟨folder, .name name false⟩ = .ok found ↔
      isOverlong name = false ∧ tree.get? (folder ++ [name]) = found := by
  unfold lookAt
  dsimp only [Target.place]
  cases isOverlong name with
  | true => simp
  | false => simp

/-- What making a new file means: the path ends in a place where nothing stands, and an empty file
is put there with the permissions that are granted. -/
theorem createNew_eq_ok_iff {tree tree' : FileTree} {path : String} {mode : UInt32}
    {place : Place} :
    tree.createNew path mode = .ok (place, tree') ↔
      tree.Locates path place ∧ tree.get? place = none ∧
        tree' = tree.put place (.file [] (tree.granted mode)) := by
  constructor
  · intro h
    obtain ⟨⟨folder, last⟩, located, h⟩ := bind_eq_ok.1 h
    cases last with
    | dots => cases h
    | name name slash =>
      cases slash with
      | true => cases h
      | false =>
        obtain ⟨found, looked, h⟩ := bind_eq_ok.1 h
        cases found with
        | some node => cases h
        | none =>
          cases h
          obtain ⟨short, absent⟩ := lookAt_name_eq_ok_iff.1 looked
          exact ⟨⟨folder, name, located, short, rfl⟩, absent, rfl⟩
  · rintro ⟨⟨folder, name, located, short, rfl⟩, absent, rfl⟩
    have looked := lookAt_name_eq_ok_iff.2 ⟨short, absent⟩
    exact bind_eq_ok.2 ⟨_, located, bind_eq_ok.2 ⟨none, looked, rfl⟩⟩

/-- The path of a file that was made leads to it, and it led there before. -/
theorem names_of_createNew {tree tree' : FileTree} {path : String} {mode : UInt32} {place : Place}
    (made : tree.createNew path mode = .ok (place, tree')) :
    tree.Names path place ∧ tree.get? place = none ∧
      tree' = tree.put place (.file [] (tree.granted mode)) := by
  obtain ⟨locates, absent, rfl⟩ := createNew_eq_ok_iff.1 made
  exact ⟨locates.names (isFile_of_absent absent), absent, rfl⟩

/-- No file is made where something stands, be it a link. -/
theorem createNew_of_taken {tree : FileTree} {path : String} {place : Place}
    (locates : tree.Locates path place) {node : Node} (taken : tree.get? place = some node)
    (mode : UInt32) : tree.createNew path mode = .error (.system .alreadyExists) := by
  obtain ⟨folder, name, located, short, rfl⟩ := locates
  have looked := lookAt_name_eq_ok_iff.2 ⟨short, taken⟩
  refine bind_eq_error.2 (.inr ⟨_, located, ?_⟩)
  exact bind_eq_error.2 (.inr ⟨_, looked, rfl⟩)

/-- A path that leads to a plain file or to nothing. -/
def Ordinary (tree : FileTree) (path : String) : Prop :=
  ∀ t node, tree.resolve path = .ok t → tree.get? t.place = some node → node.IsFile

/-- The mode of the file that stands at a place, or else of a file that would be made there. -/
def modeAt (tree : FileTree) (place : Place) : UInt32 :=
  match tree.get? place with
  | some (.file _ mode) => mode
  | _ => tree.granted 0o666

section Making

variable {tree tree' : FileTree} {path : String} {place : Place} {content : Bytes} {mode : UInt32}

/-- A plain file that is stored does not make a path any less ordinary. -/
theorem Ordinary.of_stores (ordinary : tree.Ordinary path)
    (stores : Stores place content mode tree tree') : tree'.Ordinary path := by
  intro t node resolved found
  by_cases same : t.place = place
  · rw [same, stores.present] at found
    exact ⟨content, mode, (Option.some.inj found).symm⟩
  · rw [stores.others _ same] at found
    exact ordinary t node (stores.samePaths.resolve.1 resolved) found

theorem Names.ordinary (names : tree.Names path place)
    (plain : ∀ node, tree.get? place = some node → node.IsFile) : tree.Ordinary path := by
  intro t node resolved found
  rw [names.place_eq resolved] at found
  exact plain node found

/-- The mode of the stored file, and of all others what it was. -/
theorem Stores.modeAt (stores : Stores place content mode tree tree') (q : Place) :
    tree'.modeAt q = if q = place then mode else tree.modeAt q := by
  by_cases same : q = place
  · rw [FileTree.modeAt, same, stores.present, if_pos rfl]
  · rw [FileTree.modeAt, stores.others q same, granted, stores.umask, if_neg same]
    rfl

/-- Where a file is made or emptied and a plain file or nothing stands, an empty file is stored. -/
theorem stores_of_createOrEmpty (ordinary : tree.Ordinary path)
    (h : tree.createOrEmpty path = .ok (place, tree')) :
    tree.Names path place ∧
      ∃ mode, SameAccess (tree.modeAt place) mode ∧ Stores place [] mode tree tree' := by
  obtain ⟨⟨folder, last⟩, resolved, h⟩ := bind_eq_ok.1 h
  cases last with
  | dots => cases h
  | name name slash =>
    cases slash with
    | true => cases h
    | false =>
      obtain ⟨found, looked, h⟩ := bind_eq_ok.1 h
      obtain ⟨short, stands⟩ := lookAt_name_eq_ok_iff.1 looked
      have names : tree.Names path (folder ++ [name]) := ⟨folder, name, resolved, short, rfl⟩
      have plain (node : Node) : tree.get? (folder ++ [name]) = some node → node.IsFile :=
        ordinary _ node resolved
      cases found with
      | none =>
        cases h
        refine ⟨names, tree.granted 0o666, ?_, stores_put plain [] _⟩
        rw [modeAt, Target.place, stands]
        rfl
      | some node =>
        obtain ⟨content, mode, rfl⟩ := plain node stands
        dsimp only at h
        split at h
        · cases h
          refine ⟨names, writtenMode mode, ?_, stores_put plain [] _⟩
          rw [modeAt, Target.place, stands]
          exact sameAccess_writtenMode mode
        · cases h

/-- A file is made or emptied where its owner may write it. -/
theorem exists_createOrEmpty (names : tree.Names path place) (ordinary : tree.Ordinary path)
    (writable : tree.modeAt place &&& writeMask ≠ 0) :
    ∃ tree', tree.createOrEmpty path = .ok (place, tree') := by
  obtain ⟨folder, name, resolved, short, rfl⟩ := names
  simp only [createOrEmpty, resolved, Except.bind, lookAt, short, Target.place, Bool.false_eq_true,
    if_false]
  cases found : tree.get? (folder ++ [name]) with
  | none => exact ⟨_, rfl⟩
  | some node =>
    obtain ⟨content, mode, rfl⟩ := ordinary _ node resolved found
    rw [modeAt, found] at writable
    have permits : (Node.file content mode).permits writeMask = true := by
      simpa [Node.permits] using writable
    dsimp only
    rw [if_pos permits]
    exact ⟨_, rfl⟩

/-- Who may read any new file of his may read one that is made with the usual permissions. -/
theorem granted_readable {tree : FileTree} {mode : UInt32}
    (readable : tree.granted mode &&& readMask ≠ 0) : tree.granted 0o666 &&& readMask ≠ 0 := by
  intro unreadable
  have kept : (0o666 &&& 0o7777 : UInt32) &&& readMask = readMask := by decide
  rw [granted, UInt32.and_assoc, UInt32.and_comm (~~~tree.umask), ← UInt32.and_assoc, kept]
    at unreadable
  rw [granted, UInt32.and_assoc, UInt32.and_comm (~~~tree.umask), unreadable, UInt32.and_zero]
    at readable
  exact readable rfl

end Making

end FileTree

end SessionHandoff
