import Mathlib.Data.List.TakeWhile
import SessionHandoff.Text.Blank

/-!
# Trimmed texts

Trimming takes blank characters off both ends and leaves everything between them alone. It does so
as far as it can: what is left is the one part of the text that has only blank characters around it
and no blank character at either of its own ends (`trim_eq_iff`).
-/

set_option autoImplicit false

namespace SessionHandoff.Text

/-- The text consists of blank characters. -/
def IsBlankText (text : List Char) : Prop :=
  ∀ c ∈ text, isBlank c = true

/-- The text is the inner one with blank characters around it. -/
def IsPadded (text inner : List Char) : Prop :=
  ∃ before after, IsBlankText before ∧ IsBlankText after ∧ text = before ++ inner ++ after

/-- Neither the first nor the last character is blank. -/
structure HasInkEnds (text : List Char) : Prop where
  first : ∀ c ∈ text.head?, isBlank c = false
  last : ∀ c ∈ text.getLast?, isBlank c = false

theorem HasInkEnds.of_forall {text : List Char} (ink : ∀ c ∈ text, isBlank c = false) :
    HasInkEnds text where
  first c inside := ink c (List.mem_of_mem_head? inside)
  last c inside := ink c (List.mem_of_mem_getLast? inside)

/-! ## One end -/

theorem exists_trimStart (text : List Char) :
    ∃ before, IsBlankText before ∧ text = before ++ trimStart text := by
  refine ⟨text.takeWhile isBlank, ?_, List.takeWhile_append_dropWhile.symm⟩
  intro c inside
  exact List.mem_takeWhile_imp inside

theorem exists_trimEnd (text : List Char) :
    ∃ after, IsBlankText after ∧ text = trimEnd text ++ after := by
  obtain ⟨before, blank, whole⟩ := exists_trimStart text.reverse
  refine ⟨before.reverse, fun c inside => blank c (List.mem_reverse.1 inside), ?_⟩
  rw [trimEnd, ← List.reverse_append, ← List.reverse_eq_iff]
  exact whole

/-- What is left does not start with a blank character. -/
theorem first_trimStart (text : List Char) : ∀ c ∈ (trimStart text).head?, isBlank c = false := by
  induction text with
  | nil =>
    intro c inside
    cases inside
  | cons first rest ih =>
    rw [trimStart, List.dropWhile_cons]
    split
    · exact ih
    · next ink =>
      intro c inside
      cases inside
      exact Bool.eq_false_iff.2 ink

theorem last_trimEnd (text : List Char) : ∀ c ∈ (trimEnd text).getLast?, isBlank c = false := by
  intro c inside
  rw [trimEnd, List.getLast?_reverse] at inside
  exact first_trimStart text.reverse c inside

/-- Blank characters in front are taken off up to the first other one. -/
theorem trimStart_append {before : List Char} (text : List Char) (blank : IsBlankText before)
    (ink : ∀ c ∈ text.head?, isBlank c = false) : trimStart (before ++ text) = text := by
  rw [trimStart, List.dropWhile_append_of_pos blank]
  cases text with
  | nil => rfl
  | cons first rest =>
    rw [List.dropWhile_cons, ink first rfl]
    rfl

theorem trimEnd_append {after : List Char} (text : List Char) (blank : IsBlankText after)
    (ink : ∀ c ∈ text.getLast?, isBlank c = false) : trimEnd (text ++ after) = text := by
  have turned : IsBlankText after.reverse := fun c inside => blank c (List.mem_reverse.1 inside)
  have front := trimStart_append text.reverse turned
    (fun c inside => ink c (by rwa [List.head?_reverse] at inside))
  rw [trimStart, ← List.reverse_append] at front
  rw [trimEnd, front, List.reverse_reverse]

/-! ## Both ends -/

theorem isPadded_trim (text : List Char) : IsPadded text (trim text) := by
  obtain ⟨before, blankBefore, whole⟩ := exists_trimStart text
  obtain ⟨after, blankAfter, rest⟩ := exists_trimEnd (trimStart text)
  refine ⟨before, after, blankBefore, blankAfter, ?_⟩
  rw [trim, List.append_assoc, ← rest]
  exact whole

theorem hasInkEnds_trim (text : List Char) : HasInkEnds (trim text) where
  first := by
    intro c inside
    -- the end is trimmed after the start, which leaves the first character where it was
    obtain ⟨after, -, rest⟩ := exists_trimEnd (trimStart text)
    apply first_trimStart text c
    rw [rest, List.head?_append]
    exact Option.or_eq_some_iff.2 (.inl inside)
  last := last_trimEnd (trimStart text)

/-- A trimmed text is the one that has blank characters around it and none at its ends. -/
theorem trim_eq_iff {text inner : List Char} :
    trim text = inner ↔ IsPadded text inner ∧ HasInkEnds inner := by
  constructor
  · rintro rfl
    exact ⟨isPadded_trim text, hasInkEnds_trim text⟩
  · rintro ⟨⟨before, after, blankBefore, blankAfter, rfl⟩, ink⟩
    cases inner with
    | nil =>
      -- with nothing between them both ends are blank, and the first trimming takes them all
      have blank : IsBlankText (before ++ [] ++ after) := by
        intro c inside
        rw [List.append_nil, List.mem_append] at inside
        rcases inside with inside | inside
        · exact blankBefore c inside
        · exact blankAfter c inside
      have start := trimStart_append [] blank (by simp)
      rw [List.append_nil] at start
      rw [trim, start]
      rfl
    | cons c rest =>
      have front : ∀ d ∈ (c :: rest ++ after).head?, isBlank d = false := ink.first
      rw [trim, List.append_assoc, trimStart_append _ blankBefore front,
        trimEnd_append _ blankAfter ink.last]

/-- A character that is not blank stays in a trimmed text. -/
theorem mem_trim {c : Char} {text : List Char} (inside : c ∈ text) (ink : isBlank c = false) :
    c ∈ trim text := by
  obtain ⟨before, after, blankBefore, blankAfter, whole⟩ := isPadded_trim text
  rw [whole, List.mem_append, List.mem_append] at inside
  rcases inside with (front | kept) | back
  · rw [blankBefore c front] at ink
    cases ink
  · exact kept
  · rw [blankAfter c back] at ink
    cases ink

end SessionHandoff.Text
