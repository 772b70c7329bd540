import SessionHandoff.Json.Reader
import SessionHandoff.Text.Utf8

/-!
# JSON values

A value is what a text means. The members of an object stand in ascending order of their keys, each
key once; of members with one key the last one in the text counts. Keys are compared by their
characters, which is also the order of their bytes.

Main definition: `Json.parse?`, the value of a text.
-/

set_option autoImplicit false

namespace SessionHandoff

/-! ## Entries in ascending order of their keys -/

namespace Entries

/-- Set a key of a list of entries that ascends. -/
def put {α : Type} (key : String) (value : α) : List (String × α) → List (String × α)
  | [] => [(key, value)]
  | (k, v) :: rest =>
    if key < k then (key, value) :: (k, v) :: rest
    else if key = k then (key, value) :: rest
    else (k, v) :: put key value rest

/-- Whether the keys ascend. -/
def Ascending {α : Type} (entries : List (String × α)) : Prop :=
  entries.Pairwise fun a b => a.1 < b.1

/-- The entries of any list in ascending order; of entries with one key the last one counts. -/
def ofList {α : Type} (entries : List (String × α)) : List (String × α) :=
  entries.foldl (fun sorted e => put e.1 e.2 sorted) []

theorem mem_put {α : Type} {key : String} {value : α} {entries : List (String × α)}
    {e : String × α} (h : e ∈ put key value entries) : e = (key, value) ∨ e ∈ entries := by
  induction entries with
  | nil => simpa [put] using h
  | cons head rest ih =>
    obtain ⟨k, v⟩ := head
    unfold put at h
    split at h
    · simpa using h
    · split at h
      · rcases List.mem_cons.1 h with h | h
        · exact Or.inl h
        · exact Or.inr (List.mem_cons_of_mem _ h)
      · rcases List.mem_cons.1 h with h | h
        · exact Or.inr (List.mem_cons.2 (Or.inl h))
        · rcases ih h with h | h
          · exact Or.inl h
          · exact Or.inr (List.mem_cons_of_mem _ h)

/-- Setting a key keeps the order. -/
theorem Ascending.put {α : Type} {entries : List (String × α)} (h : Ascending entries)
    (key : String) (value : α) : Ascending (Entries.put key value entries) := by
  induction entries with
  | nil => simp [Entries.put, Ascending]
  | cons head rest ih =>
    obtain ⟨k, v⟩ := head
    have hrest : Ascending rest := (List.pairwise_cons.1 h).2
    have hhead := (List.pairwise_cons.1 h).1
    unfold Entries.put
    split
    · rename_i hlt
      refine List.pairwise_cons.2 ⟨fun e he => ?_, h⟩
      rcases List.mem_cons.1 he with rfl | he
      · exact hlt
      · exact String.lt_trans hlt (hhead e he)
    · rename_i hnlt
      split
      · rename_i heq
        subst heq
        exact List.pairwise_cons.2 ⟨hhead, hrest⟩
      · rename_i hne
        refine List.pairwise_cons.2 ⟨fun e he => ?_, ih hrest⟩
        rcases mem_put he with rfl | he
        · rcases Decidable.em (k < key) with hlt | hnlt'
          · exact hlt
          · exact absurd (String.le_antisymm (String.not_lt.1 hnlt') (String.not_lt.1 hnlt)) hne
        · exact hhead e he

/-- Every list of entries comes out in ascending order. -/
theorem ofList_ascending {α : Type} (entries : List (String × α)) :
    Ascending (ofList entries) := by
  have step : ∀ (entries acc : List (String × α)), Ascending acc →
      Ascending (entries.foldl (fun sorted e => Entries.put e.1 e.2 sorted) acc) := by
    intro entries
    induction entries with
    | nil => intro acc h; exact h
    | cons e rest ih => intro acc h; exact ih _ (h.put e.1 e.2)
  exact step entries [] List.Pairwise.nil

/-- A key above all others goes to the end. -/
theorem put_of_greatest {α : Type} {key : String} {value : α} {entries : List (String × α)}
    (h : ∀ e ∈ entries, e.1 < key) : put key value entries = entries ++ [(key, value)] := by
  induction entries with
  | nil => rfl
  | cons head rest ih =>
    obtain ⟨k, v⟩ := head
    have hk : k < key := h (k, v) List.mem_cons_self
    have hlt : ¬ key < k := String.lt_asymm hk
    have hne : ¬ key = k := fun heq => String.lt_irrefl k (heq ▸ hk)
    rw [put, if_neg hlt, if_neg hne, ih fun e he => h e (List.mem_cons_of_mem _ he)]
    rfl

/-- Entries that ascend stay as they are. -/
theorem ofList_of_ascending {α : Type} {entries : List (String × α)} (h : Ascending entries) :
    ofList entries = entries := by
  have step : ∀ entries acc : List (String × α), Ascending (acc ++ entries) →
      entries.foldl (fun sorted e => put e.1 e.2 sorted) acc = acc ++ entries := by
    intro entries
    induction entries with
    | nil => intro acc _; simp
    | cons e rest ih =>
      intro acc hacc
      have hgreatest : ∀ b ∈ acc, b.1 < e.1 := fun b hb =>
        (List.pairwise_append.1 hacc).2.2 b hb e List.mem_cons_self
      rw [List.foldl_cons, put_of_greatest hgreatest, ih _ (by simpa using hacc)]
      simp
  exact step entries [] h

end Entries

/-! ## Values -/

/-- A JSON value. -/
inductive Json where
  | null
  | flag (b : Bool)
  | number (n : Json.Number)
  | text (s : String)
  | array (items : List Json)
  | object (members : List (String × Json))
deriving Repr

namespace Json

/-- The member of an object. -/
def member? (key : String) (members : List (String × Json)) : Option Json :=
  members.lookup key

mutual

/-- The value of a tree. A number out of range and a string with half a pair have none. -/
def Tree.value? : Tree → Option Json
  | .null => some .null
  | .flag b => some (.flag b)
  | .number n => n.value?.map .number
  | .text pieces => (Piece.string? pieces).map .text
  | .array items => (Tree.values? items).map .array
  | .object members => (Tree.entries? members).map fun es => .object (Entries.ofList es)

/-- The values of the items of an array. -/
def Tree.values? : List Tree → Option (List Json)
  | [] => some []
  | t :: rest => t.value?.bind fun v => (Tree.values? rest).map (v :: ·)

/-- The members of an object in the order of the text. -/
def Tree.entries? : List (List Piece × Tree) → Option (List (String × Json))
  | [] => some []
  | (key, t) :: rest =>
    (Piece.string? key).bind fun k => t.value?.bind fun v =>
      (Tree.entries? rest).map ((k, v) :: ·)

end

/-- The number of arrays and objects that may be open at once. -/
def maxDepth : Nat := 127

/-- The value of a text. -/
def parse? (text : List Char) : Option Json :=
  (Tree.read? (some maxDepth) text).bind Tree.value?

/-- The value of a text that is given as bytes. -/
def ofBytes? (bytes : Bytes) : Option Json :=
  (Utf8.decode? bytes).bind parse?

end Json

end SessionHandoff
