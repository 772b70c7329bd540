import SessionHandoff.Proofs.Storage.Paths

/-!
# Plain names in a folder

In front of the names in the working folder nothing has to be written, and in front of those in any
other folder a path with a slash behind it. What is written there leads to the folder
(`FileTree.Leads`) if it does so with a dot in place of a name. A path with a plain name behind it
ends in a place in the folder, whatever way it takes to it (`FileTree.Leads.locates`).
-/

set_option autoImplicit false

namespace SessionHandoff.FileTree

/-! ## Components -/

theorem components_eq_single {part : String} (filled : part ≠ "") (closed : '/' ∉ part.toList) :
    components part = [part] := by
  have shown : part.toList ≠ [] := by
    intro empty
    exact filled (String.toList_eq_nil_iff.1 empty)
  rw [components, List.splitOn_eq_singleton closed]
  simp [shown]

/-- A component behind a slash comes last. -/
theorem components_behind_slash (path : String) {part : String} (filled : part ≠ "")
    (closed : '/' ∉ part.toList) :
    components (path ++ "/" ++ part) = components (path ++ "/") ++ [part] := by
  have slash : ("/" : String).toList = ['/'] := rfl
  have last := components_eq_single filled closed
  unfold components at last ⊢
  rw [String.toList_append, String.toList_append, slash, List.append_assoc, List.singleton_append,
    List.splitOn_append_cons_self, List.splitOn_append_cons_self, List.filter_append,
    List.map_append, last]
  simp

/-- A walk goes on where its first part ended. -/
theorem walk_append {tree : FileTree} {place : Place} (first rest : List String) :
    tree.walk place (first ++ rest) =
      (tree.walk place first).bind fun reached => tree.walk reached rest := by
  induction first generalizing place with
  | nil => rfl
  | cons c first ih =>
    rw [List.cons_append, walk, walk]
    cases tree.stepInto place c with
    | error e => rfl
    | ok next => exact ih

/-! ## Locating -/

/-- The place that a path starts at. -/
def startOf (tree : FileTree) (path : String) : Place :=
  if path.toList.head? = some '/' then [] else tree.workingFolder

section Locating

variable {tree : FileTree} {path : String} {folder : Place}

/-- A path that ends in dots is walked as a whole. -/
theorem walk_of_locate_dots {front : List String} {part : String}
    (located : tree.locate path = .ok ⟨folder, .dots⟩) (parts : components path = front ++ [part])
    (dots : isName part = false) :
    Char.ofNat 0 ∉ path.toList ∧
      tree.walk (tree.startOf path) (front ++ [part]) = .ok folder := by
  unfold locate at located
  dsimp only at located
  split at located
  · cases located
  next noNul =>
  split at located
  · cases located
  split at located
  · cases located
  rw [parts, List.getLast?_concat] at located
  simp only [dots, Bool.false_eq_true, if_false] at located
  split at located
  · cases located
  next reached walked =>
  cases located
  refine ⟨?_, walked⟩
  intro inside
  exact noNul (List.contains_iff_mem.2 inside)

/-- A path that ends in a name leads to that name in the folder that it is walked to before. -/
theorem locate_of_walk {front : List String} {name : String}
    (noNul : Char.ofNat 0 ∉ path.toList) (fits : (Utf8.ofString path).length < maxPath)
    (parts : components path = front ++ [name]) (noDots : isName name = true)
    (walked : tree.walk (tree.startOf path) front = .ok folder)
    (stands : tree.expectFolder folder = .ok ()) (open' : path.toList.getLast? ≠ some '/') :
    tree.locate path = .ok ⟨folder, .name name false⟩ := by
  have filled : path.toList ≠ [] := by
    intro empty
    rw [components, empty] at parts
    cases front with
    | nil => cases parts
    | cons first rest => cases parts
  have textual : path.toList.contains (Char.ofNat 0) = false := by
    rw [← Bool.not_eq_true]
    intro inside
    exact noNul (List.contains_iff_mem.1 inside)
  have short : ¬ (Utf8.encode path.toList).length ≥ maxPath := Nat.not_le.2 fits
  unfold startOf at walked
  unfold locate
  simp only [textual, if_neg filled, if_neg short, parts, List.getLast?_concat, noDots, if_true,
    List.dropLast_concat, walked, Bool.false_eq_true, if_false]
  simp only [Except.bind, stands, Except.map, open', decide_false]

end Locating

/-! ## Folders -/

/-- What is written in front of the names in a folder leads to it. -/
structure Leads (tree : FileTree) (lead : String) (folder : Place) : Prop where
  form : lead = "" ∨ ∃ path, lead = path ++ "/"
  there : tree.locate (lead ++ ".") = .ok ⟨folder, .dots⟩

/-- A name that a file can have, behind what is written in front of it. -/
structure PlainName (lead name : String) : Prop where
  filled : name ≠ ""
  noSlash : '/' ∉ name.toList
  noNul : Char.ofNat 0 ∉ name.toList
  noDots : isName name = true
  short : isOverlong name = false
  fits : (Utf8.ofString (lead ++ name)).length < maxPath

section Leads

variable {tree : FileTree} {lead name part : String} {folder : Place}

theorem components_lead (form : lead = "" ∨ ∃ path, lead = path ++ "/") (filled : part ≠ "")
    (closed : '/' ∉ part.toList) : components (lead ++ part) = components lead ++ [part] := by
  rcases form with rfl | ⟨path, rfl⟩
  · rw [String.empty_append, components_eq_single filled closed]
    rfl
  · exact components_behind_slash path filled closed

/-- Where a path starts is seen from what is written in front of its last name. -/
theorem startOf_lead (closed : '/' ∉ part.toList) :
    tree.startOf (lead ++ part) = tree.startOf lead := by
  unfold startOf
  rw [String.toList_append]
  cases lead.toList with
  | nil =>
    have other : part.toList.head? ≠ some '/' := by
      intro first
      exact closed (List.mem_of_mem_head? first)
    rw [List.nil_append, if_neg other]
    rfl
  | cons c rest => rfl

/-- The folder is walked to, and it stands there. -/
theorem Leads.walk_eq (leads : tree.Leads lead folder) :
    Char.ofNat 0 ∉ lead.toList ∧ tree.walk (tree.startOf lead) (components lead) = .ok folder ∧
      tree.expectFolder folder = .ok () := by
  have closed : '/' ∉ (".").toList := by decide
  obtain ⟨noNul, walked⟩ :=
    walk_of_locate_dots leads.there (components_lead leads.form (by decide) closed) (by decide)
  rw [startOf_lead closed, walk_append] at walked
  obtain ⟨reached, walked, last⟩ := bind_eq_ok.1 walked
  -- the step of one dot stays where it is, and asks for a folder there
  obtain ⟨next, stepped, arrived⟩ := bind_eq_ok.1 last
  obtain ⟨_, stands, stays⟩ := bind_eq_ok.1 stepped
  rw [if_pos rfl] at stays
  cases stays
  cases arrived
  refine ⟨?_, walked, stands⟩
  intro inside
  apply noNul
  rw [String.toList_append]
  exact List.mem_append_left _ inside

/-- A path with a plain name behind what leads to a folder ends in a place in it. -/
theorem Leads.locates (leads : tree.Leads lead folder) (plain : PlainName lead name) :
    tree.Locates (lead ++ name) (folder ++ [name]) := by
  obtain ⟨noNul, walked, stands⟩ := leads.walk_eq
  have textual : Char.ofNat 0 ∉ (lead ++ name).toList := by
    rw [String.toList_append]
    intro inside
    rcases List.mem_append.1 inside with front | behind
    · exact noNul front
    · exact plain.noNul behind
  have open' : (lead ++ name).toList.getLast? ≠ some '/' := by
    intro slash
    rw [String.toList_append, List.getLast?_append] at slash
    cases last : name.toList.getLast? with
    | none =>
      exact plain.filled (String.toList_eq_nil_iff.1 (List.getLast?_eq_none_iff.1 last))
    | some c =>
      rw [last, Option.some_or] at slash
      cases slash
      exact plain.noSlash (List.mem_of_getLast? last)
  have located : tree.locate (lead ++ name) = .ok ⟨folder, .name name false⟩ := by
    refine locate_of_walk textual plain.fits
      (components_lead leads.form plain.filled plain.noSlash) plain.noDots ?_ stands open'
    rw [startOf_lead plain.noSlash]
    exact walked
  exact ⟨folder, name, located, plain.short, rfl⟩

end Leads

end SessionHandoff.FileTree
