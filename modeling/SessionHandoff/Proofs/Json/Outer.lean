import SessionHandoff.Json.Reader

/-!
# What the reader reads without a bound, and without opening anything

A text that is read under a bound on its depth is read without one as well
(`Tree.read?_unbounded`). A text without the characters that open a string, an array or an object
holds nothing but a scalar (`isScalar_of_read?`).
-/

set_option autoImplicit false

namespace SessionHandoff

/-! ## Reading without a bound -/

namespace Json

variable {n : Nat}

theorem startValue_unbounded {frames : List Frame} {c : Char} {s : ReaderState}
    (h : startValue (some n) frames c = some s) : startValue none frames c = some s := by
  unfold startValue at h ⊢
  -- an array or object that may be opened under a bound may be opened without one
  split
  · rename_i quote
    rwa [if_pos quote] at h
  rename_i quote
  rw [if_neg quote] at h
  split
  · rename_i bracket
    rw [if_pos bracket] at h
    split at h
    · exact h
    · cases h
  rename_i bracket
  rw [if_neg bracket] at h
  split
  · rename_i brace
    rw [if_pos brace] at h
    split at h
    · exact h
    · cases h
  rename_i brace
  rwa [if_neg brace] at h

theorem ReaderState.step_unbounded {s s' : ReaderState} {c : Char}
    (h : s.step (some n) c = some s') : s.step none c = some s' := by
  obtain ⟨mode, frames⟩ := s
  cases mode with
  | value =>
    unfold step at h ⊢
    dsimp only at h ⊢
    split at h
    · rename_i space
      rwa [if_pos space]
    · rename_i space
      rw [if_neg space]
      exact startValue_unbounded h
  | firstItem =>
    unfold step at h ⊢
    dsimp only at h ⊢
    split at h
    · rename_i space
      rwa [if_pos space]
    · rename_i space
      rw [if_neg space]
      split at h
      · rename_i closing
        rwa [if_pos closing]
      · rename_i closing
        rw [if_neg closing]
        exact startValue_unbounded h
  | firstKey | nextKey | colon | literal rest result | number m | string role str | done t =>
    exact h

/-- By induction on the text: what a bounded reader reads is read without a bound as well. -/
theorem ReaderState.run_unbounded {s s' : ReaderState} {text : List Char}
    (h : s.run (some n) text = some s') : s.run none text = some s' := by
  induction text generalizing s with
  | nil => exact h
  | cons c text ih =>
    obtain ⟨next, step, rest⟩ := Option.bind_eq_some_iff.1 h
    exact Option.bind_eq_some_iff.2 ⟨next, step_unbounded step, ih rest⟩

theorem Tree.read?_unbounded {text : List Char} {t : Tree}
    (h : Tree.read? (some n) text = some t) : Tree.read? none text = some t := by
  obtain ⟨s, run, finished⟩ := Option.bind_eq_some_iff.1 h
  exact Option.bind_eq_some_iff.2 ⟨s, ReaderState.run_unbounded run, finished⟩

/-! ## Texts that open nothing -/

/-- Neither an array nor an object. -/
inductive Tree.IsScalar : Tree → Prop where
  | null : IsScalar .null
  | flag (b : Bool) : IsScalar (.flag b)
  | number (n : NumberText) : IsScalar (.number n)
  | text (pieces : List Piece) : IsScalar (.text pieces)

/-- What a reader expects that has opened nothing. -/
inductive Mode.IsOuter : Mode → Prop where
  | value : IsOuter .value
  | literal {result : Tree} (rest : List Char) (scalar : result.IsScalar) :
      IsOuter (.literal rest result)
  | number (n : NumberState) : IsOuter (.number n)
  | done {t : Tree} (scalar : t.IsScalar) : IsOuter (.done t)

/-- The characters that open a string, an array or an object. -/
def opening : List Char := ['"', '[', '\x7b']

variable {bound : Option Nat} {c : Char}

theorem afterValue_outer {t : Tree} {s : ReaderState} (scalar : t.IsScalar)
    (h : afterValue t [] c = some s) : s.frames = [] ∧ s.mode.IsOuter := by
  unfold afterValue at h
  split at h
  · cases h
    exact ⟨rfl, .done scalar⟩
  · cases h

theorem startValue_outer {s : ReaderState} (closed : c ∉ opening)
    (h : startValue bound [] c = some s) : s.frames = [] ∧ s.mode.IsOuter := by
  simp only [opening, List.mem_cons, List.not_mem_nil, or_false, not_or] at closed
  unfold startValue at h
  rw [if_neg closed.1, if_neg closed.2.1, if_neg closed.2.2] at h
  split at h
  · cases h
    exact ⟨rfl, .literal _ .null⟩
  split at h
  · cases h
    exact ⟨rfl, .literal _ (.flag true)⟩
  split at h
  · cases h
    exact ⟨rfl, .literal _ (.flag false)⟩
  · obtain ⟨n, -, rfl⟩ := Option.map_eq_some_iff.1 h
    exact ⟨rfl, .number n⟩

theorem ReaderState.step_outer {mode : Mode} {s : ReaderState} (outer : mode.IsOuter)
    (closed : c ∉ opening) (h : ReaderState.step bound ⟨mode, []⟩ c = some s) :
    s.frames = [] ∧ s.mode.IsOuter := by
  unfold step at h
  cases outer with
  | value =>
    dsimp only at h
    split at h
    · cases h
      exact ⟨rfl, .value⟩
    · exact startValue_outer closed h
  | literal rest scalar =>
    dsimp only at h
    split at h
    · exact afterValue_outer scalar h
    · split at h
      · cases h
        exact ⟨rfl, .done scalar⟩
      · cases h
    · split at h
      · cases h
        exact ⟨rfl, .literal _ scalar⟩
      · cases h
  | number n =>
    dsimp only at h
    split at h
    · rename_i n' _
      cases h
      exact ⟨rfl, .number n'⟩
    · obtain ⟨text, -, h⟩ := Option.bind_eq_some_iff.1 h
      exact afterValue_outer (.number text) h
  | done scalar => exact afterValue_outer scalar h

/-- By induction on the text: a reader that has opened nothing stays outside of strings, arrays and
objects where the text opens nothing. -/
theorem ReaderState.run_outer {mode : Mode} {s : ReaderState} {text : List Char}
    (outer : mode.IsOuter) (closed : ∀ c ∈ text, c ∉ opening)
    (h : ReaderState.run bound ⟨mode, []⟩ text = some s) : s.frames = [] ∧ s.mode.IsOuter := by
  induction text generalizing mode with
  | nil =>
    cases h
    exact ⟨rfl, outer⟩
  | cons c text ih =>
    obtain ⟨⟨mode', frames⟩, step, rest⟩ := Option.bind_eq_some_iff.1 h
    obtain ⟨rfl, outer'⟩ := step_outer outer (closed c List.mem_cons_self) step
    exact ih outer' (fun c inside => closed c (List.mem_cons_of_mem _ inside)) rest

/-- Where nothing is opened nothing but a scalar is read. -/
theorem isScalar_of_read? {text : List Char} {t : Tree} (closed : ∀ c ∈ text, c ∉ opening)
    (h : Tree.read? bound text = some t) : t.IsScalar := by
  obtain ⟨⟨mode, frames⟩, ran, finished⟩ := Option.bind_eq_some_iff.1 h
  obtain ⟨rfl, outer⟩ := ReaderState.run_outer .value closed ran
  unfold ReaderState.finish? at finished
  cases outer with
  | value => cases finished
  | literal rest scalar => cases finished
  | number n =>
    obtain ⟨text, -, rfl⟩ := Option.map_eq_some_iff.1 finished
    exact .number text
  | done scalar =>
    cases finished
    exact scalar

end Json

end SessionHandoff
