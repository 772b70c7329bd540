import SessionHandoff.Launch.Session
import SessionHandoff.Proofs.Limits.Plan

/-!
# Which exposed passwords are noticed

A password is in a data position when an argument, the value of a variable or the standard input is
the password itself or a key with an equals sign and the password after it. A profile with a
password in a data position is refused if the password holds a blank character or holds no quote,
and is not refused otherwise (`buildCommand_refuses_iff`): a quote in the password ends a token, so
a password with quotes and without blank characters is never found
(`revealsPassword_of_not_noticeable`).
-/

set_option autoImplicit false

namespace SessionHandoff

/-- The text is the password, or a key without equals sign, an equals sign and the password. -/
def IsPasswordData (text password : String) : Prop :=
  text = password ∨ ∃ key : String, '=' ∉ key.toList ∧ text = key ++ "=" ++ password

/-- The password of the profile is in a data position. -/
def LaunchProfile.HasPasswordAsData (p : LaunchProfile) : Prop :=
  (∃ arg ∈ p.config.args, IsPasswordData arg p.password) ∨
    (∃ e ∈ p.config.environment.entries, IsPasswordData e.2 p.password) ∨
    IsPasswordData p.config.stdInput p.password

/-- The password holds a blank character, or it holds no quote. -/
def IsNoticeable (password : String) : Prop :=
  (∃ c ∈ password.toList, Text.isBlank c = true) ∨ ∀ c ∈ password.toList, c ≠ '\'' ∧ c ≠ '"'

/-! ## Tokens -/

theorem tokens_ne_nil (text : List Char) : tokens text ≠ [] := by
  cases text with
  | nil => simp [tokens]
  | cons c rest =>
    rw [tokens]
    split
    · simp
    · split <;> simp

theorem tokens_cons_delimiter {c : Char} (hc : isDelimiter c = true) (rest : List Char) :
    tokens (c :: rest) = [] :: tokens rest := by
  rw [tokens, if_pos hc]

/-- A character that ends no token stands in front of the first one. -/
theorem tokens_cons_letter {c : Char} (hc : isDelimiter c = false) (rest : List Char) :
    ∃ token more, tokens rest = token :: more ∧ tokens (c :: rest) = (c :: token) :: more := by
  cases hrest : tokens rest with
  | nil => exact absurd hrest (tokens_ne_nil rest)
  | cons token more =>
    refine ⟨token, more, rfl, ?_⟩
    rw [tokens, if_neg (by simp [hc]), hrest]

/-- A delimiter divides the tokens before it from those after it. -/
theorem tokens_append_delimiter {d : Char} (hd : isDelimiter d = true) (front back : List Char) :
    tokens (front ++ d :: back) = tokens front ++ tokens back := by
  induction front with
  | nil =>
    rw [List.nil_append, tokens_cons_delimiter hd]
    rfl
  | cons c front ih =>
    rw [List.cons_append]
    cases hc : isDelimiter c with
    | true => rw [tokens_cons_delimiter hc, tokens_cons_delimiter hc, ih, List.cons_append]
    | false =>
      -- The letter joins the first token of the whole and of the front, and that is one token.
      obtain ⟨token, more, hrest, hcons⟩ := tokens_cons_letter hc (front ++ d :: back)
      obtain ⟨token', more', hrest', hcons'⟩ := tokens_cons_letter hc front
      rw [ih, hrest', List.cons_append] at hrest
      cases hrest
      rw [hcons, hcons', List.cons_append]

theorem tokens_of_letters {word : List Char} (h : ∀ c ∈ word, isDelimiter c = false) :
    tokens word = [word] := by
  induction word with
  | nil => rfl
  | cons c word ih =>
    obtain ⟨token, more, hrest, hcons⟩ := tokens_cons_letter (h c List.mem_cons_self) word
    rw [ih fun b hb => h b (List.mem_cons_of_mem _ hb)] at hrest
    cases hrest
    exact hcons

/-- No token holds a delimiter. -/
theorem isDelimiter_of_mem_token {text token : List Char} (h : token ∈ tokens text) {c : Char}
    (hc : c ∈ token) : isDelimiter c = false := by
  induction text generalizing token with
  | nil =>
    obtain rfl : token = [] := by simpa [tokens] using h
    cases hc
  | cons b text ih =>
    cases hb : isDelimiter b with
    | true =>
      rw [tokens_cons_delimiter hb] at h
      rcases List.mem_cons.1 h with rfl | h
      · cases hc
      · exact ih h hc
    | false =>
      obtain ⟨first, more, hrest, hcons⟩ := tokens_cons_letter hb text
      rw [hcons] at h
      rcases List.mem_cons.1 h with rfl | h
      · rcases List.mem_cons.1 hc with rfl | hc
        · exact hb
        · exact ih (hrest ▸ List.mem_cons_self) hc
      · exact ih (hrest ▸ List.mem_cons_of_mem _ h) hc

/-- A text holds no delimiter, or it has a last one. -/
theorem letters_or_last_delimiter (text : List Char) :
    (∀ c ∈ text, isDelimiter c = false) ∨
      ∃ front d back, text = front ++ d :: back ∧ isDelimiter d = true ∧
        ∀ c ∈ back, isDelimiter c = false := by
  induction text with
  | nil => exact Or.inl (by simp)
  | cons c text ih =>
    rcases ih with hletters | ⟨front, d, back, rfl, hd, hback⟩
    · cases hc : isDelimiter c with
      | true => exact Or.inr ⟨[], c, text, rfl, hc, hletters⟩
      | false =>
        refine Or.inl fun b hb => ?_
        rcases List.mem_cons.1 hb with rfl | hb
        · exact hc
        · exact hletters b hb
    · exact Or.inr ⟨c :: front, d, back, rfl, hd, hback⟩

/-- The last token of a text that ends in letters ends in these letters. -/
theorem exists_token_append {word : List Char} (h : ∀ c ∈ word, isDelimiter c = false)
    (text : List Char) : ∃ tail, (∀ c ∈ tail, c ∈ text) ∧ tail ++ word ∈ tokens (text ++ word) := by
  -- The word goes on with whatever stands behind the last delimiter.
  rcases letters_or_last_delimiter text with hletters | ⟨front, d, back, rfl, hd, hback⟩
  · refine ⟨text, fun c hc => hc, ?_⟩
    rw [tokens_of_letters fun c hc => (List.mem_append.1 hc).elim (hletters c) (h c)]
    exact List.mem_singleton.2 rfl
  · refine ⟨back, fun c hc => by simp [hc], ?_⟩
    rw [List.append_assoc, List.cons_append, tokens_append_delimiter hd,
      tokens_of_letters fun c hc => (List.mem_append.1 hc).elim (hback c) (h c)]
    simp

/-! ## Revealed passwords -/

theorem afterEquals?_append {key : List Char} (h : '=' ∉ key) (rest : List Char) :
    afterEquals? (key ++ '=' :: rest) = some rest := by
  induction key with
  | nil => simp [afterEquals?]
  | cons c key ih =>
    have hc : ¬ c = '=' := fun heq => h (heq ▸ List.mem_cons_self)
    rw [List.cons_append, afterEquals?, if_neg hc, ih fun hkey => h (List.mem_cons_of_mem _ hkey)]

/-- What follows the first equals sign of a text is made of its characters. -/
theorem mem_of_afterEquals? {text rest : List Char} (h : afterEquals? text = some rest) {c : Char}
    (hc : c ∈ rest) : c ∈ text := by
  induction text with
  | nil => cases h
  | cons b text ih =>
    rw [afterEquals?] at h
    split at h
    · cases h
      exact List.mem_cons_of_mem _ hc
    · exact List.mem_cons_of_mem _ (ih h)

/-- A text contains another exactly when the other stands somewhere in it. -/
theorem containsText_iff {text part : List Char} :
    containsText text part = true ↔ part <:+: text := by
  induction text with
  | nil => simp [containsText]
  | cons c text ih =>
    rw [containsText, Bool.or_eq_true, ih, List.isPrefixOf_iff_prefix, List.infix_cons_iff]

theorem revealsPassword_of_blank {text password : String}
    (h : ∃ c ∈ password.toList, Text.isBlank c = true) :
    revealsPassword text password = true ↔ password.toList <:+: text.toList := by
  rw [revealsPassword, if_pos (List.any_eq_true.2 h), containsText_iff]

/-- Without a blank character a password is revealed as a token or behind an equals sign of one. -/
theorem revealsPassword_iff_token {text password : String}
    (h : ¬ ∃ c ∈ password.toList, Text.isBlank c = true) :
    revealsPassword text password = true ↔
      ∃ token ∈ tokens text.toList,
        token = password.toList ∨ afterEquals? token = some password.toList := by
  rw [revealsPassword, if_neg fun hany => h (List.any_eq_true.1 hany), List.any_eq_true]
  simp only [Bool.or_eq_true, beq_iff_eq]

/-- A password with quotes and without blank characters is revealed by no text. -/
theorem revealsPassword_of_not_noticeable {password : String} (h : ¬ IsNoticeable password)
    (text : String) : revealsPassword text password = false := by
  obtain ⟨hblank, hquote⟩ := not_or.1 h
  obtain ⟨q, hq, hdelim⟩ : ∃ q ∈ password.toList, isDelimiter q = true := by
    apply Classical.byContradiction
    intro hnone
    refine hquote fun c hc => ⟨?_, ?_⟩
    · rintro rfl
      exact hnone ⟨_, hc, by decide⟩
    · rintro rfl
      exact hnone ⟨_, hc, by decide⟩
  -- The quote would have to stand in a token.
  rw [← Bool.not_eq_true, revealsPassword_iff_token hblank]
  rintro ⟨token, htoken, rfl | hafter⟩
  · rw [isDelimiter_of_mem_token htoken hq] at hdelim
    cases hdelim
  · rw [isDelimiter_of_mem_token htoken (mem_of_afterEquals? hafter hq)] at hdelim
    cases hdelim

/-- A noticeable password is revealed by every text that is password data. -/
theorem revealsPassword_of_isPasswordData {text password : String}
    (hdata : IsPasswordData text password) (h : IsNoticeable password) :
    revealsPassword text password = true := by
  by_cases hblank : ∃ c ∈ password.toList, Text.isBlank c = true
  · -- With a blank character the password is looked for as it is.
    rw [revealsPassword_of_blank hblank]
    rcases hdata with rfl | ⟨key, -, rfl⟩
    · exact List.infix_rfl
    · rw [String.toList_append]
      exact (List.suffix_append _ _).isInfix
  · -- Without one it has no quote, so nothing in it ends a token.
    have hquote := h.resolve_left hblank
    have hletters : ∀ c ∈ password.toList, isDelimiter c = false := by
      intro c hc
      have hb : Text.isBlank c = false := by
        cases hb : Text.isBlank c with
        | true => exact absurd ⟨c, hc, hb⟩ hblank
        | false => rfl
      simp [isDelimiter, hb, hquote c hc]
    rw [revealsPassword_iff_token hblank]
    rcases hdata with rfl | ⟨key, hkey, rfl⟩
    · exact ⟨text.toList, by rw [tokens_of_letters hletters]; simp, Or.inl rfl⟩
    · have hword : ∀ c ∈ '=' :: password.toList, isDelimiter c = false := by
        intro c hc
        rcases List.mem_cons.1 hc with rfl | hc
        · decide
        · exact hletters c hc
      -- Only the end of the key is in the token of the password, and it has no equals sign.
      obtain ⟨tail, htail, htoken⟩ := exists_token_append hword key.toList
      refine ⟨tail ++ '=' :: password.toList, ?_, Or.inr ?_⟩
      · simpa [String.toList_append] using htoken
      · exact afterEquals?_append (fun hmem => hkey (htail _ hmem)) _

/-! ## Refused profiles -/

theorem exposesPassword_iff {p : LaunchProfile} (hpassword : p.password ≠ "")
    (hdata : p.HasPasswordAsData) : p.exposesPassword = true ↔ IsNoticeable p.password := by
  have hne : (!p.password.isEmpty) = true := by simpa using hpassword
  rw [LaunchProfile.exposesPassword, hne, Bool.true_and, ProcessConfig.reveals, Bool.or_eq_true,
    Bool.or_eq_true, List.any_eq_true, List.any_eq_true]
  constructor
  · intro h
    apply Classical.byContradiction
    intro hn
    have hnone := revealsPassword_of_not_noticeable hn
    simp [hnone] at h
  · intro hn
    rcases hdata with ⟨arg, harg, hdata⟩ | ⟨e, he, hdata⟩ | hdata
    · exact Or.inl (Or.inl ⟨arg, harg, revealsPassword_of_isPasswordData hdata hn⟩)
    · refine Or.inl (Or.inr ⟨e, he, ?_⟩)
      rw [revealsPassword_of_isPasswordData hdata hn, Bool.or_true]
    · exact Or.inr (revealsPassword_of_isPasswordData hdata hn)

theorem buildCommand_eq_plaintextPassword_iff {p : LaunchProfile} {strict : Bool}
    (hexec : p.executable ≠ "") :
    buildCommand p strict = .error .plaintextPassword ↔ p.exposesPassword = true := by
  have hne : ¬ p.executable.isEmpty = true := by simpa using hexec
  rw [buildCommand, if_neg hne]
  constructor
  · intro h
    split at h
    · next hexposed => exact hexposed
    · -- No plan fails because of a password.
      obtain ⟨cpu, hcpu, -⟩ := LimitPlan.ofLimits_eq_error_iff.1 (map_eq_error.1 h)
      cases hcpu
  · intro h
    rw [if_pos h]

/-- A session is refused for its password exactly when its command is. -/
theorem runSession_eq_plaintextPassword_iff {machine : Machine} {files : FileTree}
    {p : LaunchProfile} {strict : Bool} :
    runSession machine files p strict = .error .plaintextPassword ↔
      buildCommand p strict = .error .plaintextPassword := by
  constructor
  · intro h
    cases hc : buildCommand p strict with
    | error e =>
      rw [runSession_of_buildCommand_error hc] at h
      cases h
      rfl
    | ok c =>
      rw [runSession, hc] at h
      simp only [Except.bind] at h
      split at h <;> cases h
  · exact runSession_of_buildCommand_error

/-- A profile whose password is in a data position is refused, and no command is made, exactly when
the password holds a blank character or holds no quote. -/
theorem buildCommand_refuses_iff {p : LaunchProfile} (hexec : p.executable ≠ "")
    (hpassword : p.password ≠ "") (hdata : p.HasPasswordAsData) (strict : Bool) :
    (buildCommand p strict = .error .plaintextPassword ↔ IsNoticeable p.password) ∧
      ∀ (machine : Machine) (files : FileTree),
        runSession machine files p strict = .error .plaintextPassword ↔
          IsNoticeable p.password := by
  have hcommand : buildCommand p strict = .error .plaintextPassword ↔ IsNoticeable p.password :=
    (buildCommand_eq_plaintextPassword_iff hexec).trans (exposesPassword_iff hpassword hdata)
  exact ⟨hcommand, fun machine files => runSession_eq_plaintextPassword_iff.trans hcommand⟩

/-- A profile whose only argument is its password. -/
def profileOfArgument (password : String) : LaunchProfile :=
  { executable := "/bin/true", password
    config := { args := [password], environment := .ofList [] } }

theorem buildCommand_refuses_argument :
    buildCommand (profileOfArgument "s3 cr=t'") true = .error .plaintextPassword :=
  (buildCommand_refuses_iff (p := profileOfArgument "s3 cr=t'") (by decide) (by decide)
    (Or.inl ⟨_, List.mem_cons_self, Or.inl rfl⟩) true).1.2 (Or.inl ⟨' ', by decide, by decide⟩)

/-- A password with a quote is passed on as an argument. -/
theorem buildCommand_accepts_quoted_argument :
    (profileOfArgument "pa'ss").HasPasswordAsData ∧
      ∃ c, buildCommand (profileOfArgument "pa'ss") true = .ok c ∧ "pa'ss" ∈ c.args := by
  refine ⟨Or.inl ⟨_, List.mem_cons_self, Or.inl rfl⟩, _, rfl, ?_⟩
  exact List.mem_cons_self

end SessionHandoff
