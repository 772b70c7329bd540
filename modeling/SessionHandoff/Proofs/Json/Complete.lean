import SessionHandoff.Proofs.Json.Printed

/-!
# Texts that break off and texts that go on

A reader that may stop holds a complete value and has nothing open
(`ReaderState.IsComplete`). From there it only takes what continues a number or stands between
tokens, so it never takes a closing brace. Hence of a text that ends with one no proper beginning
is read (`read?_eq_none_of_beginning`), and behind it only space is read (`read?_append`).

On the level of bytes: the text of an object is refused wherever it is cut, also inside of a
character (`ofBytes?_eq_none_of_beginning`), and bytes behind it are accepted exactly when all of
them are space (`ofBytes?_toBytes_append`).
-/

set_option autoImplicit false

namespace SessionHandoff.Json

/-! ## States in which a text may end -/

/-- Nothing is open, and a value is complete or a number may be. -/
inductive ReaderState.IsComplete : ReaderState → Prop
  | done (t : Tree) : IsComplete ⟨.done t, []⟩
  | number (n : NumberState) : IsComplete ⟨.number n, []⟩

variable {bound : Option Nat}

theorem ReaderState.isComplete_of_finish? {s : ReaderState} {t : Tree} (h : s.finish? = some t) :
    s.IsComplete := by
  obtain ⟨mode, frames⟩ := s
  cases frames with
  | cons frame rest => cases h
  | nil =>
    cases mode with
    | done t' => exact .done t'
    | number n => exact .number n
    | value => cases h
    | firstItem => cases h
    | firstKey => cases h
    | nextKey => cases h
    | colon => cases h
    | literal rest result => cases h
    | string role str => cases h

/-- After a value with nothing open comes space. -/
theorem afterValue_nil (t : Tree) (c : Char) :
    afterValue t [] c = if isSpace c then some ⟨.done t, []⟩ else none := rfl

/-- What is complete stays complete as long as reading goes on. -/
theorem ReaderState.IsComplete.step {s s' : ReaderState} {c : Char} (h : s.IsComplete)
    (hstep : s.step bound c = some s') : s'.IsComplete := by
  have after : ∀ t, afterValue t [] c = some s' → s'.IsComplete := by
    intro t ht
    rw [afterValue_nil] at ht
    split at ht
    · cases ht
      exact .done t
    · cases ht
  cases h with
  | done t => exact after t hstep
  | number n =>
    simp only [ReaderState.step] at hstep
    split at hstep
    · cases hstep
      exact .number _
    · obtain ⟨text, -, htext⟩ := Option.bind_eq_some_iff.1 hstep
      exact after _ htext

theorem ReaderState.IsComplete.run {s s' : ReaderState} {text : List Char} (h : s.IsComplete)
    (hrun : s.run bound text = some s') : s'.IsComplete := by
  induction text generalizing s with
  | nil =>
    cases hrun
    exact h
  | cons c text ih =>
    rw [ReaderState.run_cons] at hrun
    obtain ⟨s₁, hstep, hrest⟩ := Option.bind_eq_some_iff.1 hrun
    exact ih (h.step hstep) hrest

/-! ## Closing braces -/

theorem NumberState.advance?_brace (n : NumberState) : n.advance? '}' = none := by
  obtain ⟨phase, negative, whole, fraction, exponentNegative, exponent⟩ := n
  cases phase <;> rfl

/-- Where nothing is open nothing is closed. -/
theorem ReaderState.IsComplete.step_brace {s : ReaderState} (h : s.IsComplete) :
    s.step bound '}' = none := by
  cases h with
  | done t => rfl
  | number n =>
    simp only [ReaderState.step, NumberState.advance?_brace]
    cases n.finish? <;> rfl

theorem mode_of_afterValue {t : Tree} {frames : List Frame} {c : Char} {s : ReaderState}
    (h : afterValue t frames c = some s) (n : NumberState) : s.mode ≠ .number n := by
  intro hmode
  unfold afterValue at h
  repeat' split at h
  all_goals cases h
  all_goals cases hmode

/-- A closing brace is no part of a number. -/
theorem ReaderState.mode_of_step_brace {s s' : ReaderState} (h : s.step bound '}' = some s')
    (n : NumberState) : s'.mode ≠ .number n := by
  intro hmode
  obtain ⟨mode, frames⟩ := s
  cases mode with
  | value => cases h
  | firstItem => cases h
  | nextKey => cases h
  | colon => cases h
  | firstKey =>
    cases frames with
    | nil => cases h
    | cons frame rest =>
      cases frame <;> cases h
      cases hmode
  | literal rest result =>
    cases rest with
    | nil => exact mode_of_afterValue h n hmode
    | cons next more =>
      cases more <;> simp only [ReaderState.step] at h <;> split at h <;> cases h <;> cases hmode
  | number m =>
    simp only [ReaderState.step, NumberState.advance?_brace] at h
    obtain ⟨text, -, htext⟩ := Option.bind_eq_some_iff.1 h
    exact mode_of_afterValue htext n hmode
  | string role str =>
    simp only [ReaderState.step] at h
    split at h
    · cases h
      cases hmode
    · unfold endString at h
      split at h <;> cases h <;> cases hmode
    · cases h
  | done t => exact mode_of_afterValue h n hmode

/-- Where a text may end behind a closing brace, its value is complete. -/
theorem ReaderState.eq_done_of_step_brace {s s' : ReaderState} {t : Tree}
    (hstep : s.step bound '}' = some s') (hfinish : s'.finish? = some t) :
    s' = ⟨.done t, []⟩ := by
  cases isComplete_of_finish? hfinish with
  | done t' =>
    cases hfinish
    rfl
  | number n => exact absurd rfl (mode_of_step_brace hstep n)

/-! ## Beginnings and continuations of a text -/

/-- A text that ends with a closing brace is read up to that brace, and the brace completes it. -/
theorem exists_of_read?_brace {text : List Char} {t : Tree}
    (h : Tree.read? bound (text ++ ['}']) = some t) :
    ∃ s, ReaderState.start.run bound text = some s ∧ s.step bound '}' = some ⟨.done t, []⟩ := by
  obtain ⟨s', hrun, hfinish⟩ := Option.bind_eq_some_iff.1 h
  rw [ReaderState.run_append] at hrun
  obtain ⟨s, htext, hbrace⟩ := Option.bind_eq_some_iff.1 hrun
  rw [ReaderState.run_cons] at hbrace
  obtain ⟨s'', hstep, hnil⟩ := Option.bind_eq_some_iff.1 hbrace
  cases hnil
  rw [ReaderState.eq_done_of_step_brace hstep hfinish] at hstep
  exact ⟨s, htext, hstep⟩

/-- No proper beginning of a text is read that is read and ends with a closing brace. -/
theorem read?_eq_none_of_beginning {beginning rest : List Char} {t : Tree}
    (h : Tree.read? bound (beginning ++ rest ++ ['}']) = some t) :
    Tree.read? bound beginning = none := by
  obtain ⟨s, hrun, hstep⟩ := exists_of_read?_brace h
  rw [ReaderState.run_append] at hrun
  obtain ⟨s₁, hbeginning, hrest⟩ := Option.bind_eq_some_iff.1 hrun
  rw [Tree.read?, hbeginning, Option.bind_some]
  cases hfinish : s₁.finish? with
  | none => rfl
  | some t' =>
    -- The beginning would be complete, and so would all that is read after it.
    have hcomplete := (ReaderState.isComplete_of_finish? hfinish).run hrest
    rw [hcomplete.step_brace] at hstep
    cases hstep

/-- After a complete value with nothing open, space is all that is read. -/
theorem run_done_nil (t : Tree) (text : List Char) :
    (⟨.done t, []⟩ : ReaderState).run bound text =
      if text.all isSpace then some ⟨.done t, []⟩ else none := by
  induction text with
  | nil => rfl
  | cons c text ih =>
    have hstep : (⟨.done t, []⟩ : ReaderState).step bound c =
        if isSpace c then some ⟨.done t, []⟩ else none := afterValue_nil t c
    rw [ReaderState.run_cons, hstep]
    cases hc : isSpace c with
    | true =>
      rw [if_pos rfl, Option.bind_some, ih]
      simp [hc]
    | false => simp [hc]

/-- Behind a text that is read and ends with a closing brace, only space is read. -/
theorem read?_append {text : List Char} {t : Tree}
    (h : Tree.read? bound (text ++ ['}']) = some t) (rest : List Char) :
    Tree.read? bound (text ++ ['}'] ++ rest) =
      if rest.all isSpace then some t else none := by
  obtain ⟨s, hrun, hstep⟩ := exists_of_read?_brace h
  rw [Tree.read?, List.append_assoc, ReaderState.run_append, hrun, Option.bind_some,
    List.singleton_append, ReaderState.run_cons, hstep, Option.bind_some, run_done_nil]
  split
  · rfl
  · rfl

/-! ## Bytes -/

/-- The bytes that may stand between tokens. -/
def isSpaceByte (b : UInt8) : Bool :=
  b = 0x20 || b = 0x09 || b = 0x0A || b = 0x0D

/-- Bytes of space encode a text of space. -/
theorem exists_encode_of_isSpaceByte {bytes : Bytes} (h : ∀ b ∈ bytes, isSpaceByte b = true) :
    ∃ text, (∀ c ∈ text, isSpace c = true) ∧ bytes = Utf8.encode text := by
  induction bytes with
  | nil => exact ⟨[], by simp, rfl⟩
  | cons b bytes ih =>
    obtain ⟨text, hspace, rfl⟩ := ih fun x hx => h x (List.mem_cons_of_mem _ hx)
    have hb : b = 0x20 ∨ b = 0x09 ∨ b = 0x0A ∨ b = 0x0D := by
      simpa [isSpaceByte, or_assoc] using h b List.mem_cons_self
    have hchar : ∃ c, isSpace c = true ∧ Utf8.encodeChar c = [b] := by
      rcases hb with rfl | rfl | rfl | rfl
      · exact ⟨' ', rfl, rfl⟩
      · exact ⟨'\t', rfl, rfl⟩
      · exact ⟨'\n', rfl, rfl⟩
      · exact ⟨'\r', rfl, rfl⟩
    obtain ⟨c, hc, hbytes⟩ := hchar
    refine ⟨c :: text, ?_, by rw [Utf8.encode_cons, hbytes]; rfl⟩
    intro x hx
    rcases List.mem_cons.1 hx with rfl | hx
    · exact hc
    · exact hspace x hx

/-- The bytes of a text are bytes of space exactly when the text is space. -/
theorem all_isSpaceByte_encode (text : List Char) :
    (Utf8.encode text).all isSpaceByte = text.all isSpace := by
  rw [Bool.eq_iff_iff, List.all_eq_true, List.all_eq_true]
  constructor
  · intro h
    -- The bytes also encode a text of space, and they encode only one text.
    obtain ⟨text', hspace, hbytes⟩ := exists_encode_of_isSpaceByte h
    rw [Utf8.encode_inj.1 hbytes]
    exact hspace
  · intro h b hb
    obtain ⟨c, hc, hb⟩ := List.mem_flatMap.1 hb
    have hcases : c = ' ' ∨ c = '\t' ∨ c = '\n' ∨ c = '\r' := by
      simpa [isSpace, or_assoc] using h c hc
    rcases hcases with rfl | rfl | rfl | rfl
    all_goals
      rw [List.mem_singleton.1 hb]
      rfl

section Objects

variable {members : List (String × Json)} (h : (object members).Readable maxDepth)

include h

/-- The text of an object ends with a closing brace and is read as a tree of the object. -/
theorem exists_read?_object :
    ∃ text t, print (.object members) = text ++ ['}'] ∧
      Tree.read? (some maxDepth) (text ++ ['}']) = some t ∧ t.value? = some (.object members) := by
  have hread := ofBytes?_toBytes h
  rw [ofBytes?, toBytes, Utf8.decode?_encode, Option.bind_some, parse?] at hread
  obtain ⟨t, ht, hvalue⟩ := Option.bind_eq_some_iff.1 hread
  have htext : print (.object members) = '\x7b' :: printMembers members ++ ['}'] := by rw [print]
  exact ⟨_, t, htext, htext ▸ ht, hvalue⟩

/-- Bytes behind those of an object are accepted exactly when all of them are space. -/
theorem ofBytes?_toBytes_append (rest : Bytes) :
    ofBytes? ((object members).toBytes ++ rest) =
      if rest.all isSpaceByte then some (object members) else none := by
  obtain ⟨text, t, htext, hread, hvalue⟩ := exists_read?_object h
  rw [ofBytes?, toBytes, htext, Utf8.decode?_encode_append]
  cases hrest : Utf8.decode? rest with
  | none =>
    have hspace : ¬ rest.all isSpaceByte = true := by
      intro hall
      obtain ⟨space, -, rfl⟩ := exists_encode_of_isSpaceByte (List.all_eq_true.1 hall)
      rw [Utf8.decode?_encode] at hrest
      cases hrest
    rw [if_neg hspace]
    rfl
  | some more =>
    obtain rfl := Utf8.decode?_eq_some_iff.1 hrest
    rw [Option.map_some, Option.bind_some, parse?, read?_append hread]
    rw [all_isSpaceByte_encode]
    split
    · exact hvalue
    · rfl

/-- The bytes of an object are refused wherever they break off. -/
theorem ofBytes?_eq_none_of_beginning {part : Bytes} (hpart : part <+: (object members).toBytes)
    (hne : part ≠ (object members).toBytes) : ofBytes? part = none := by
  obtain ⟨text, t, htext, hread, -⟩ := exists_read?_object h
  rw [toBytes, htext] at hpart hne
  cases hdecode : Utf8.decode? part with
  | none =>
    rw [ofBytes?, hdecode]
    rfl
  | some beginning =>
    -- The cut lies between two characters, so it is a cut of the text.
    obtain rfl := Utf8.decode?_eq_some_iff.1 hdecode
    obtain ⟨rest, hrest⟩ := hpart
    have hchars : Utf8.decode? (Utf8.encode beginning ++ rest) = some (text ++ ['}']) := by
      rw [hrest, Utf8.decode?_encode]
    rw [Utf8.decode?_encode_append] at hchars
    obtain ⟨more, hmore, hall⟩ := Option.map_eq_some_iff.1 hchars
    rcases List.eq_nil_or_concat more with rfl | ⟨middle, last, rfl⟩
    · rw [List.append_nil] at hall
      exact absurd (congrArg Utf8.encode hall) hne
    · have hlast : beginning ++ middle = text ∧ [last] = ['}'] :=
        List.append_inj' (by rw [List.append_assoc, ← List.concat_eq_append]; exact hall) rfl
      obtain ⟨rfl, -⟩ := hlast
      rw [ofBytes?, hdecode, Option.bind_some, parse?, read?_eq_none_of_beginning hread]
      rfl

end Objects

end SessionHandoff.Json
