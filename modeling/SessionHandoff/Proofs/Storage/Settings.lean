import SessionHandoff.Proofs.Cipher.Base64
import SessionHandoff.Proofs.Json.Outer
import SessionHandoff.Proofs.Profile.Transfer
import SessionHandoff.Proofs.Storage.Paths
import SessionHandoff.Storage.Settings

/-!
# Settings beside files that are stored

The settings of a run come from one file, named or looked for under its default name. Storing a file
elsewhere changes nothing about them (`Settings.load_elsewhere`). Storing a written profile over the
settings file leaves settings that can be loaded as well: every key of a profile is foreign to them,
so the defaults come out (`Settings.parse?_profile`, `Settings.load_over_profile`). A ciphertext in
place of the settings file leaves none (`Settings.parse?_encode`, `Settings.not_load_of_secret`).
-/

set_option autoImplicit false

namespace SessionHandoff

/-! ## Ciphertexts and profiles read as settings -/

/-- Base64 opens nothing. -/
theorem Json.not_opening_of_mem_encode {bytes : Bytes} {c : Char}
    (inside : c ∈ (Base64.encode bytes).toList) : c ∉ Json.opening := by
  have symbols : ∀ n < 64, Base64.symbol n ∉ Json.opening := by decide
  rw [Base64.encode, String.toList_ofList] at inside
  rcases Base64.mem_encodeChars inside with ⟨n, hn, rfl⟩ | rfl
  · exact symbols n hn
  · decide

namespace Entries

theorem key_mem_put {α : Type} (key : String) (value : α) (entries : List (String × α)) :
    key ∈ (put key value entries).map Prod.fst ∧
      ∀ k ∈ entries.map Prod.fst, k ∈ (put key value entries).map Prod.fst := by
  induction entries with
  | nil => exact ⟨List.mem_singleton_self key, fun k inside => absurd inside List.not_mem_nil⟩
  | cons entry rest ih =>
    unfold put
    split
    · exact ⟨List.mem_cons_self, fun k inside => List.mem_cons_of_mem _ inside⟩
    · split
      · rename_i same
        subst same
        exact ⟨List.mem_cons_self, fun k inside => inside⟩
      · refine ⟨List.mem_cons_of_mem _ ih.1, fun k inside => ?_⟩
        rcases List.mem_cons.1 inside with rfl | later
        · exact List.mem_cons_self
        · exact List.mem_cons_of_mem _ (ih.2 k later)

/-- Putting entries in order loses no key. -/
theorem key_mem_ofList {α : Type} {entries : List (String × α)} {e : String × α}
    (h : e ∈ entries) : e.1 ∈ (ofList entries).map Prod.fst := by
  have kept (entries sorted : List (String × α)) :
      ∀ k, k ∈ sorted.map Prod.fst ∨ k ∈ entries.map Prod.fst →
        k ∈ (entries.foldl (fun sorted e => put e.1 e.2 sorted) sorted).map Prod.fst := by
    induction entries generalizing sorted with
    | nil =>
      rintro k (inside | none)
      · exact inside
      · cases none
    | cons e rest ih =>
      intro k inside
      refine ih _ k ?_
      have put := key_mem_put e.1 e.2 sorted
      rcases inside with before | inside
      · exact .inl (put.2 k before)
      · rcases List.mem_cons.1 inside with rfl | later
        · exact .inl put.1
        · exact .inr later
  exact kept entries [] e.1 (.inr (List.mem_map_of_mem h))

end Entries

namespace Settings

/-- Members with foreign keys are skipped. -/
theorem ofMembers?_of_foreign {members : List (List Json.Piece × Json.Tree)}
    {entries : List (String × Json)} (read : Json.Tree.entries? members = some entries)
    (foreign : ∀ e ∈ entries, Field.ofKey? e.1 = none) (s : Settings) (met : List Field) :
    ofMembers? s met members = some s := by
  induction members generalizing entries with
  | nil => rfl
  | cons member rest ih =>
    obtain ⟨key, t⟩ := member
    obtain ⟨k, spelled, read⟩ := Option.bind_eq_some_iff.1 read
    obtain ⟨v, -, read⟩ := Option.bind_eq_some_iff.1 read
    obtain ⟨later, onward, rfl⟩ := Option.map_eq_some_iff.1 read
    have skipped := foreign (k, v) List.mem_cons_self
    rw [ofMembers?, spelled, Option.bind_some, skipped]
    exact ih onward fun e inside => foreign e (List.mem_cons_of_mem _ inside)

/-- A tree of an object with foreign keys gives the default settings. -/
theorem ofTree?_of_foreign {t : Json.Tree} {entries : List (String × Json)}
    (value : t.value? = some (.object entries))
    (foreign : ∀ key ∈ entries.map Prod.fst, Field.ofKey? key = none) : ofTree? t = some {} := by
  cases t with
  | object members =>
    rw [Json.Tree.value?] at value
    obtain ⟨listed, read, same⟩ := Option.map_eq_some_iff.1 value
    cases same
    exact ofMembers?_of_foreign read (fun e inside => foreign _ (Entries.key_mem_ofList inside)) {}
      []
  | null | flag b => cases value
  | number m | text pieces | array items =>
    rw [Json.Tree.value?] at value
    obtain ⟨_, -, ⟨⟩⟩ := Option.map_eq_some_iff.1 value

/-- The text of a written profile gives the default settings. -/
theorem parse?_profile (p : LaunchProfile) :
    parse? (String.ofList (Json.print p.toJson)) = some {} := by
  have read := Json.ofBytes?_toBytes p.readable_toJson
  rw [Json.ofBytes?, Json.toBytes, Utf8.decode?_encode, Option.bind_some, Json.parse?] at read
  obtain ⟨t, read, value⟩ := Option.bind_eq_some_iff.1 read
  rw [parse?, String.toList_ofList, Json.Tree.read?_unbounded read, Option.bind_some]
  refine ofTree?_of_foreign value ?_
  show ∀ key ∈ ["config", "context", "encryptionKey", "executablePath", "password"],
    Field.ofKey? key = none
  decide

/-- The text of a ciphertext gives no settings: it opens nothing, and settings are an object or an
array. -/
theorem parse?_encode (bytes : Bytes) : parse? (Base64.encode bytes) = none := by
  have closed (c : Char) (inside : c ∈ (Base64.encode bytes).toList) : c ∉ Json.opening :=
    Json.not_opening_of_mem_encode inside
  rw [parse?]
  cases read : Json.Tree.read? none (Base64.encode bytes).toList with
  | none => rfl
  | some t =>
    cases Json.isScalar_of_read? closed read with
    | null | flag b | number n | text pieces => rfl

/-! ## Loading -/

/-- The settings of a run that names a settings file, or names none. -/
def load (tree : FileTree) (policyValue : Option Bytes) :
    Option String → Except LaunchError Settings
  | some path => loadFile tree policyValue path
  | none => loadDefault tree policyValue

/-- The file that the settings are looked for in. -/
def source (named : Option String) : String := named.getD defaultFile

variable {tree tree' : FileTree} {policyValue : Option Bytes} {named : Option String}
variable {s s' : Settings}

/-- Loading a node gives the settings: it may be read, and it holds the text of settings which are
valid with the decode policy of the variable. -/
def Loads (policyValue : Option Bytes) (node : Node) (s : Settings) : Prop :=
  ∃ bytes text parsed, node.permits readMask = true ∧ node.content = .ok bytes ∧
    Utf8.toString? bytes = some text ∧ parse? text = some parsed ∧
    (parsed.override policyValue).bind validate = .ok s

theorem loadFile_eq_ok_iff {path : String} :
    loadFile tree policyValue path = .ok s ↔
      ∃ node, tree.find path = .ok node ∧ Loads policyValue node s := by
  unfold loadFile
  constructor
  · intro loaded
    split at loaded
    · cases loaded
    · rename_i text read
      split at loaded
      · cases loaded
      · rename_i parsed settings
        obtain ⟨node, bytes, leads, permits, content, decoded⟩ :=
          FileTree.readText_eq_ok_iff.1 read
        exact ⟨node, leads, bytes, text, parsed, permits, content, decoded, settings, loaded⟩
  · rintro ⟨node, leads, bytes, text, parsed, permits, content, decoded, settings, loaded⟩
    rw [FileTree.readText_eq_ok_iff.2 ⟨node, bytes, leads, permits, content, decoded⟩]
    dsimp only
    rw [settings]
    exact loaded

/-- Settings are loaded from what the file is, or are the defaults where none was named and none is
there. -/
theorem load_eq_ok_iff :
    load tree policyValue named = .ok s ↔
      (∃ node, tree.find (source named) = .ok node ∧ Loads policyValue node s) ∨
      (named = none ∧ (∀ node, tree.find (source named) ≠ .ok node) ∧
        override {} policyValue = .ok s) := by
  cases named with
  | some path =>
    rw [load, loadFile_eq_ok_iff]
    constructor
    · exact .inl
    · rintro (found | ⟨⟨⟩, -⟩)
      exact found
  | none =>
    rw [load, loadDefault, FileTree.hasEntry, source, Option.getD_none]
    cases found : tree.find defaultFile with
    | error e => simp [Except.toBool]
    | ok node =>
      simp only [Except.toBool, if_true, loadFile_eq_ok_iff, found]
      simp

/-- A file stored elsewhere changes nothing about the settings. -/
theorem load_elsewhere {place : Place} {content : Bytes} {mode : UInt32}
    (stores : FileTree.Stores place content mode tree tree')
    (elsewhere : ∀ t, tree.resolve (source named) = .ok t → t.place ≠ place) :
    load tree' policyValue named = .ok s ↔ load tree policyValue named = .ok s := by
  have same (node : Node) :
      tree'.find (source named) = .ok node ↔ tree.find (source named) = .ok node :=
    stores.find_elsewhere elsewhere
  simp only [load_eq_ok_iff, same, ne_eq]

/-- The variable is accepted or refused whatever the settings are that it overrides. -/
theorem override_default (h : override s policyValue = .ok s') :
    ∃ t, override {} policyValue = .ok t ∧ validate t = .ok t := by
  have owned (policy : DecodePolicy) :
      validate { decodePolicy := policy } = .ok { decodePolicy := policy } :=
    if_pos (show (0o600 : UInt32) &&& othersMask = 0 by decide)
  unfold override at h ⊢
  split
  · exact ⟨_, rfl, owned .bestEffort⟩
  · rename_i text given
    rw [given] at h
    obtain ⟨policy, named, -⟩ := map_eq_ok.1 h
    exact ⟨_, map_eq_ok.2 ⟨policy, named, rfl⟩, owned policy⟩

theorem override_of_load (loaded : load tree policyValue named = .ok s) :
    ∃ t, override {} policyValue = .ok t ∧ validate t = .ok t := by
  rcases load_eq_ok_iff.1 loaded with ⟨node, -, bytes, text, parsed, -, -, -, -, valid⟩ |
    ⟨-, -, defaults⟩
  · obtain ⟨overridden, accepted, -⟩ := bind_eq_ok.1 valid
    exact override_default accepted
  · exact override_default defaults

/-- Where settings can be loaded they can be loaded after a profile was stored anywhere, also over
the file that they come from. -/
theorem load_over_profile {place : Place} {p : LaunchProfile} {mode : UInt32}
    (stores : FileTree.Stores place p.toBytes mode tree tree') (readable : mode &&& readMask ≠ 0)
    (loaded : load tree policyValue named = .ok s) :
    ∃ s', load tree' policyValue named = .ok s' := by
  obtain ⟨t, defaults, valid⟩ := override_of_load loaded
  by_cases same : ∃ u, tree.resolve (source named) = .ok u ∧ u.place = place
  · obtain ⟨u, resolved, at'⟩ := same
    refine ⟨t, load_eq_ok_iff.2 ?_⟩
    have profile : Loads policyValue (.file p.toBytes mode) t := by
      refine ⟨p.toBytes, _, {}, by simpa [Node.permits] using readable, rfl, ?_, parse?_profile p,
        bind_eq_ok.2 ⟨t, defaults, valid⟩⟩
      rw [LaunchProfile.toBytes, Json.toBytes, Utf8.toString?, Utf8.decode?_encode, Option.map_some]
    by_cases found : ∃ node, tree'.find (source named) = .ok node
    · obtain ⟨node, found⟩ := found
      obtain rfl := stores.eq_file_of_find resolved at' found
      exact .inl ⟨_, found, profile⟩
    · rcases load_eq_ok_iff.1 loaded with ⟨node, before, -⟩ | ⟨unnamed, -, -⟩
      · exact absurd ⟨_, stores.find_again resolved at' before⟩ found
      · exact .inr ⟨unnamed, fun node again => found ⟨node, again⟩, defaults⟩
  · refine ⟨s, (load_elsewhere stores fun u resolved at' => ?_).2 loaded⟩
    exact same ⟨u, resolved, at'⟩

/-- Where a ciphertext is found in place of the settings file no settings are loaded. -/
theorem not_load_of_secret {bytes : Bytes} {mode : UInt32}
    (found : tree.find (source named) =
      .ok (.file (Utf8.ofString (Base64.encode bytes)) mode)) :
    load tree policyValue named ≠ .ok s := by
  intro loaded
  rcases load_eq_ok_iff.1 loaded with ⟨node, leads, loads⟩ | ⟨-, absent, -⟩
  · obtain ⟨content, text, parsed, -, read, decoded, settings, -⟩ := loads
    rw [found] at leads
    cases leads
    cases read
    rw [Utf8.toString?_ofString] at decoded
    cases decoded
    rw [parse?_encode] at settings
    cases settings
  · exact absent _ found

end Settings

end SessionHandoff
