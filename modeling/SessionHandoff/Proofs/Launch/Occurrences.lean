import SessionHandoff.Proofs.Launch.Exposure

/-!
# Where a revealed password stands

A word of a text is a part without delimiters that has a delimiter or an end of the text on either
side. The tokens of a text are its words, the empty ones included (`mem_tokens_iff`).

A password without delimiters is revealed exactly where it stands in the text up to the end of a
word, and from the beginning of that word or from behind its first equals sign
(`revealsPassword_iff_occurrence`). So it is not found where it only stands inside of longer words.
-/

set_option autoImplicit false

namespace SessionHandoff

/-! ## Ends of words -/

/-- No word is left open at the end: the text is empty or ends with a delimiter. -/
def ClosedAtEnd (text : List Char) : Prop :=
  text = [] ∨ ∃ front d, text = front ++ [d] ∧ isDelimiter d = true

/-- No word goes on at the start: the text is empty or starts with a delimiter. -/
def ClosedAtStart (text : List Char) : Prop :=
  text = [] ∨ ∃ d back, text = d :: back ∧ isDelimiter d = true

/-- What stands behind the last delimiter of a text, or all of the text if it has none. -/
def lastWord (text : List Char) : List Char :=
  (text.reverse.takeWhile (!isDelimiter ·)).reverse

theorem lastWord_append {front word : List Char} (closed : ClosedAtEnd front)
    (letters : ∀ c ∈ word, isDelimiter c = false) : lastWord (front ++ word) = word := by
  have behind : front.reverse.takeWhile (!isDelimiter ·) = [] := by
    rcases closed with rfl | ⟨front, d, rfl, delimiter⟩
    · rfl
    · rw [List.reverse_append, List.reverse_singleton, List.singleton_append,
        List.takeWhile_cons_of_neg (by simp [delimiter])]
  have kept : ∀ c ∈ word.reverse, (!isDelimiter c) = true := by
    intro c inside
    simp [letters c (List.mem_reverse.1 inside)]
  rw [lastWord, List.reverse_append, List.takeWhile_append_of_pos kept, behind, List.append_nil,
    List.reverse_reverse]

/-- In front of the last word stands nothing, or a delimiter. -/
theorem exists_append_lastWord (text : List Char) :
    ∃ front, text = front ++ lastWord text ∧ ClosedAtEnd front ∧
      ∀ c ∈ lastWord text, isDelimiter c = false := by
  have word {front word : List Char} (closed : ClosedAtEnd front)
      (letters : ∀ c ∈ word, isDelimiter c = false) (parts : text = front ++ word) :
      ∃ front, text = front ++ lastWord text ∧ ClosedAtEnd front ∧
        ∀ c ∈ lastWord text, isDelimiter c = false := by
    have last : lastWord text = word := by rw [parts, lastWord_append closed letters]
    rw [last]
    exact ⟨front, parts, closed, letters⟩
  rcases letters_or_last_delimiter text with letters | ⟨front, d, back, parts, delimiter, letters⟩
  · -- there is no delimiter: the text is one word
    exact word (.inl rfl) letters rfl
  · exact word (.inr ⟨front, d, rfl, delimiter⟩) letters (by rw [parts, List.append_cons])

/-! ## Tokens are words -/

/-- A word that stands in a text is one of its tokens. -/
theorem mem_tokens_of_word {front word back : List Char} (closed : ClosedAtEnd front)
    (letters : ∀ c ∈ word, isDelimiter c = false) (ended : ClosedAtStart back) :
    word ∈ tokens (front ++ (word ++ back)) := by
  have last : word ∈ tokens (front ++ word) := by
    rcases closed with rfl | ⟨front, d, rfl, delimiter⟩
    · rw [List.nil_append, tokens_of_letters letters]
      exact List.mem_singleton_self word
    · rw [List.append_assoc, List.singleton_append, tokens_append_delimiter delimiter,
        tokens_of_letters letters]
      exact List.mem_append_right _ (List.mem_singleton_self word)
  rw [← List.append_assoc]
  rcases ended with rfl | ⟨d, back, rfl, delimiter⟩
  · rw [List.append_nil]
    exact last
  · rw [tokens_append_delimiter delimiter]
    exact List.mem_append_left _ last

/-- The tokens of a text are its words. -/
theorem mem_tokens_iff {text token : List Char} :
    token ∈ tokens text ↔
      ∃ front back, text = front ++ (token ++ back) ∧ ClosedAtEnd front ∧
        (∀ c ∈ token, isDelimiter c = false) ∧ ClosedAtStart back := by
  constructor
  · -- by the number of delimiters: in front of the last one the text is shorter
    intro member
    have letters (c : Char) (inside : c ∈ token) : isDelimiter c = false :=
      isDelimiter_of_mem_token member inside
    induction h : text.length using Nat.strongRecOn generalizing text with
    | ind n ih =>
      subst h
      rcases letters_or_last_delimiter text with plain | ⟨front, d, back, rfl, delimiter, plain⟩
      · rw [tokens_of_letters plain, List.mem_singleton] at member
        subst member
        exact ⟨[], [], by simp, .inl rfl, letters, .inl rfl⟩
      · rw [tokens_append_delimiter delimiter, tokens_of_letters plain, List.mem_append,
          List.mem_singleton] at member
        rcases member with member | rfl
        · obtain ⟨f, b, rfl, closed, -, ended⟩ := ih front.length (by simp) member rfl
          refine ⟨f, b ++ d :: back, by simp, closed, letters, .inr ?_⟩
          rcases ended with rfl | ⟨e, rest, rfl, first⟩
          · exact ⟨d, back, rfl, delimiter⟩
          · exact ⟨e, _, rfl, first⟩
        · exact ⟨front ++ [d], [], by simp, .inr ⟨front, d, rfl, delimiter⟩, letters, .inl rfl⟩
  · rintro ⟨front, back, rfl, closed, letters, ended⟩
    exact mem_tokens_of_word closed letters ended

/-! ## Occurrences of a password -/

theorem eq_append_of_afterEquals? {text rest : List Char} (h : afterEquals? text = some rest) :
    ∃ key, text = key ++ '=' :: rest ∧ '=' ∉ key := by
  induction text with
  | nil => cases h
  | cons c text ih =>
    rw [afterEquals?] at h
    split at h
    · next equals =>
      cases h
      exact ⟨[], by rw [equals]; rfl, List.not_mem_nil⟩
    · next other =>
      obtain ⟨key, rfl, free⟩ := ih h
      refine ⟨c :: key, rfl, fun inside => ?_⟩
      rcases List.mem_cons.1 inside with rfl | inside
      · exact other rfl
      · exact free inside

/-- A password between two texts is a value: behind it no word goes on, and in front of it no word
is left open, or just one that ends with its first equals sign. -/
def IsDelimited (before after : List Char) : Prop :=
  ClosedAtStart after ∧
    (ClosedAtEnd before ∨ ∃ key, lastWord before = key ++ ['='] ∧ '=' ∉ key)

/-- The password touches a character of a longer word: behind it some character that is no
delimiter, or in front of it one that is neither a delimiter nor an equals sign. -/
def IsInsideWord (before after : List Char) : Prop :=
  (∃ c, after.head? = some c ∧ isDelimiter c = false) ∨
    ∃ c, before.getLast? = some c ∧ isDelimiter c = false ∧ c ≠ '='

/-- A password that touches a longer word is no value. -/
theorem not_isDelimited_of_isInsideWord {before after : List Char}
    (inside : IsInsideWord before after) : ¬ IsDelimited before after := by
  rintro ⟨ended, begun⟩
  rcases inside with ⟨c, first, letter⟩ | ⟨c, last, letter, other⟩
  · rcases ended with rfl | ⟨d, back, rfl, delimiter⟩
    · cases first
    · cases first
      rw [letter] at delimiter
      cases delimiter
  · rcases begun with (rfl | ⟨front, d, rfl, delimiter⟩) | ⟨key, word, -⟩
    · cases last
    · rw [List.getLast?_concat] at last
      cases last
      rw [letter] at delimiter
      cases delimiter
    · -- the last word ends with the equals sign, and so does the text
      obtain ⟨front, parts, -, -⟩ := exists_append_lastWord before
      rw [parts, word, ← List.append_assoc, List.getLast?_concat] at last
      cases last
      exact other rfl

/-- A word is the password, or its part behind the first equals sign is, exactly where the password
stands as a value in the text. -/
theorem exists_token_iff_isDelimited {text password : List Char}
    (letters : ∀ c ∈ password, isDelimiter c = false) :
    (∃ token ∈ tokens text, token = password ∨ afterEquals? token = some password) ↔
      ∃ before after, text = before ++ (password ++ after) ∧ IsDelimited before after := by
  constructor
  · rintro ⟨token, member, found⟩
    obtain ⟨front, back, rfl, closed, word, ended⟩ := mem_tokens_iff.1 member
    rcases found with rfl | found
    · exact ⟨front, back, rfl, ended, .inl closed⟩
    · obtain ⟨key, rfl, free⟩ := eq_append_of_afterEquals? found
      rw [List.append_cons] at word
      have keyWord : ∀ c ∈ key ++ ['='], isDelimiter c = false := fun c inside =>
        word c (List.mem_append_left _ inside)
      refine ⟨front ++ (key ++ ['=']), back, by simp, ended, .inr ⟨key, ?_, free⟩⟩
      exact lastWord_append closed keyWord
  · rintro ⟨before, after, rfl, ended, closed | ⟨key, last, free⟩⟩
    · exact ⟨password, mem_tokens_of_word closed letters ended, .inl rfl⟩
    · obtain ⟨front, parts, closed, word⟩ := exists_append_lastWord before
      rw [last] at parts word
      -- the key, the equals sign and the password are one word
      have whole : ∀ c ∈ key ++ '=' :: password, isDelimiter c = false := by
        intro c inside
        rw [List.append_cons, List.mem_append] at inside
        exact inside.elim (word c) (letters c)
      refine ⟨key ++ '=' :: password, ?_, .inr (afterEquals?_append free password)⟩
      have member := mem_tokens_of_word closed whole ended
      rw [parts]
      simpa using member

/-- **Exactly the passwords that stand as values are revealed.** Let a password have no delimiter,
that is, no blank character and no quote.

* A text reveals it if and only if it stands in the text with a delimiter or the end of the text
  behind it, and in front of it the start of the text, a delimiter, or an equals sign that is the
  only one behind the last delimiter.
* So a text does not reveal it in which it stands inside of longer words only. -/
theorem revealsPassword_iff_occurrence (text : String) {password : String}
    (letters : ∀ c ∈ password.toList, isDelimiter c = false) :
    (revealsPassword text password = true ↔
      ∃ before after : String, text = before ++ password ++ after ∧
        IsDelimited before.toList after.toList) ∧
    ((∀ before after : String, text = before ++ password ++ after →
        IsInsideWord before.toList after.toList) →
      revealsPassword text password = false) := by
  have noBlank : ¬ ∃ c ∈ password.toList, Text.isBlank c = true := by
    rintro ⟨c, inside, blank⟩
    have letter := letters c inside
    rw [isDelimiter, blank] at letter
    cases letter
  have occurrence : revealsPassword text password = true ↔
      ∃ before after : String, text = before ++ password ++ after ∧
        IsDelimited before.toList after.toList := by
    rw [revealsPassword_iff_token noBlank, exists_token_iff_isDelimited letters]
    constructor
    · rintro ⟨before, after, parts, delimited⟩
      refine ⟨String.ofList before, String.ofList after, ?_, ?_⟩
      · rw [← String.toList_inj]
        simpa using parts
      · simpa using delimited
    · rintro ⟨before, after, rfl, delimited⟩
      exact ⟨before.toList, after.toList, by simp, delimited⟩
  refine ⟨occurrence, fun inside => ?_⟩
  rw [← Bool.not_eq_true, occurrence]
  rintro ⟨before, after, parts, delimited⟩
  exact not_isDelimited_of_isInsideWord (inside before after parts) delimited

/-- A password with an equals sign is found behind a key, and a hyphen is not found in an option. -/
theorem revealsPassword_iff_occurrence_option :
    revealsPassword "k=p=w z" "p=w" = true ∧ revealsPassword "--flag" "-" = false := by
  have behindKey : ∀ c ∈ "p=w".toList, isDelimiter c = false := by
    simp [isDelimiter, Text.isBlank, Text.blankRanges]
  have hyphen : ∀ c ∈ "-".toList, isDelimiter c = false := by
    simp [isDelimiter, Text.isBlank, Text.blankRanges]
  constructor
  · refine (revealsPassword_iff_occurrence "k=p=w z" behindKey).1.2
      ⟨"k=", " z", by decide, ?_, .inr ⟨['k'], by decide, by decide⟩⟩
    exact .inr ⟨' ', ['z'], by decide, by decide⟩
  · refine (revealsPassword_iff_occurrence "--flag" hyphen).2 fun before after parts => ?_
    have parts : ['-', '-', 'f', 'l', 'a', 'g'] = before.toList ++ '-' :: after.toList := by
      simpa using congrArg String.toList parts
    generalize before.toList = b at parts ⊢
    generalize after.toList = a at parts ⊢
    rcases b with _ | ⟨x, _ | ⟨y, rest⟩⟩
    · cases parts
      exact .inl ⟨'-', rfl, by decide⟩
    · cases parts
      exact .inl ⟨'f', rfl, by decide⟩
    · -- behind the second hyphen there is no other
      have others : ['f', 'l', 'a', 'g'] = rest ++ '-' :: a :=
        (List.cons.inj (List.cons.inj parts).2).2
      have inside : '-' ∈ ['f', 'l', 'a', 'g'] := others ▸ List.mem_append_cons_self
      exact absurd inside (by decide)

end SessionHandoff
