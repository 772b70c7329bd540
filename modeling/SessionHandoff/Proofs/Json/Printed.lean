import SessionHandoff.Json.Printer
import SessionHandoff.Proofs.Text.Utf8

/-!
# Reading what was printed

A printed value is read back as the same value (`ofBytes?_toBytes`), provided that its numbers are
integers, that the keys of its objects ascend and that its arrays and objects are not nested deeper
than the reader allows (`Json.Readable`).

The reader is followed character by character. After the text of a value it stands in a state that
has read the value's tree (`ReaderState.HasRead`): the next character is taken as one that follows a
complete value, and at the end of the text the tree is the result. A number is complete only when
the next character shows it, so this state need not be `done`.
-/

set_option autoImplicit false

namespace SessionHandoff.Json

/-! ## Decimal digits -/

theorem digit?_digitChar : ∀ d < 10, Text.digit? (Nat.digitChar d) = some d := by decide

theorem ofDigits_concat (digits : List Nat) (d : Nat) :
    Text.ofDigits (digits ++ [d]) = 10 * Text.ofDigits digits + d := by
  simp [Text.ofDigits]

/-- The decimal text of a natural number consists of its digits, and a text of more than one digit
does not start with a zero. -/
theorem exists_decimal_digits (n : Nat) :
    ∃ d digits, Text.decimal n = (d :: digits).map Nat.digitChar ∧
      (∀ k ∈ d :: digits, k < 10) ∧ Text.ofDigits (d :: digits) = n ∧ (d = 0 → digits = []) := by
  induction n using Nat.strongRecOn with
  | ind n ih =>
    by_cases hn : n < 10
    · refine ⟨n, [], Nat.toDigits_of_lt_base hn, by simpa using hn, ?_, fun _ => rfl⟩
      simp [Text.ofDigits]
    · obtain ⟨d, digits, htext, hlt, hvalue, hzero⟩ := ih (n / 10) (by omega)
      refine ⟨d, digits ++ [n % 10], ?_, ?_, ?_, ?_⟩
      · rw [Text.decimal] at htext ⊢
        rw [Nat.toDigits_of_base_le (by omega) (by omega), htext]
        simp
      · intro k hk
        rw [← List.cons_append] at hk
        rcases List.mem_append.1 hk with hk | hk
        · exact hlt k hk
        · rw [List.mem_singleton.1 hk]
          omega
      · rw [← List.cons_append, ofDigits_concat, hvalue]
        omega
      · intro hd
        -- The leading digits spell `n / 10`, which is not zero.
        rw [hd, hzero hd, Text.ofDigits] at hvalue
        simp at hvalue
        omega

/-! ## States that have read a value -/

/-- The characters that may follow a value: commas, closing brackets and space. -/
def endsValue (c : Char) : Bool :=
  c = ',' || c = ']' || c = '}' || isSpace c

/-- The state has read a tree while the frames are open. -/
structure ReaderState.HasRead (bound : Option Nat) (s : ReaderState) (t : Tree)
    (frames : List Frame) : Prop where
  step_eq : ∀ c, endsValue c = true → s.step bound c = afterValue t frames c
  finish?_eq : frames = [] → s.finish? = some t

/-- From the start of a value under the frames the text is read as the tree. -/
def Reads (bound : Option Nat) (frames : List Frame) (text : List Char) (t : Tree) : Prop :=
  ∃ s : ReaderState, (⟨.value, frames⟩ : ReaderState).run bound text = some s ∧
    s.HasRead bound t frames

section Reader

variable {bound : Option Nat} {frames : List Frame}

theorem ReaderState.run_cons (s : ReaderState) (c : Char) (text : List Char) :
    s.run bound (c :: text) = (s.step bound c).bind fun s' => s'.run bound text := rfl

theorem hasRead_done (t : Tree) : (⟨.done t, frames⟩ : ReaderState).HasRead bound t frames :=
  ⟨fun _ _ => rfl, fun h => by subst h; rfl⟩

/-- What follows a value that was read is read from the state after it. -/
theorem Reads.run_append {text : List Char} {t : Tree} (h : Reads bound frames text t) {c : Char}
    (hc : endsValue c = true) (rest : List Char) :
    (⟨.value, frames⟩ : ReaderState).run bound (text ++ c :: rest) =
      (afterValue t frames c).bind fun s => s.run bound rest := by
  obtain ⟨s, hrun, hread⟩ := h
  rw [ReaderState.run_append, hrun, Option.bind_some, ReaderState.run_cons, hread.step_eq c hc]

/-! ## Numbers -/

/-- The state of an integer of which these digits have been read, the last one first. -/
def NumberState.ofWhole (negative : Bool) (digits : List Nat) : NumberState :=
  ⟨if digits = [0] then .zero else .whole, negative, digits, [], false, []⟩

theorem NumberState.advance?_ofWhole {negative : Bool} {digits : List Nat} (hdigits : digits ≠ [0])
    (hne : digits ≠ []) {d : Nat} (hd : d < 10) :
    (NumberState.ofWhole negative digits).advance? (Nat.digitChar d) =
      some (NumberState.ofWhole negative (d :: digits)) := by
  have hcons : d :: digits ≠ [0] := by simp [hne]
  simp only [NumberState.ofWhole, if_neg hdigits, if_neg hcons, NumberState.advance?,
    digit?_digitChar d hd]

theorem NumberState.advance?_ends {negative : Bool} {digits : List Nat} {c : Char}
    (hc : endsValue c = true) : (NumberState.ofWhole negative digits).advance? c = none := by
  have hcases : c = ',' ∨ c = ']' ∨ c = '}' ∨ c = ' ' ∨ c = '\t' ∨ c = '\n' ∨ c = '\r' := by
    simpa [endsValue, isSpace, or_assoc] using hc
  by_cases hzero : digits = [0]
  · simp only [NumberState.ofWhole, if_pos hzero]
    rcases hcases with rfl | rfl | rfl | rfl | rfl | rfl | rfl <;> rfl
  · simp only [NumberState.ofWhole, if_neg hzero]
    rcases hcases with rfl | rfl | rfl | rfl | rfl | rfl | rfl <;> rfl

theorem NumberState.finish?_ofWhole (negative : Bool) (digits : List Nat) :
    (NumberState.ofWhole negative digits).finish? =
      some ⟨negative, digits.reverse, [], none⟩ := by
  by_cases hzero : digits = [0]
  · subst hzero
    rfl
  · simp only [NumberState.ofWhole, if_neg hzero, NumberState.finish?, List.reverse_nil]

theorem hasRead_ofWhole (negative : Bool) (digits : List Nat) :
    (⟨.number (.ofWhole negative digits.reverse), frames⟩ : ReaderState).HasRead bound
      (.number ⟨negative, digits, [], none⟩) frames := by
  constructor
  · intro c hc
    simp only [ReaderState.step, NumberState.advance?_ends hc, NumberState.finish?_ofWhole,
      Option.bind_some, List.reverse_reverse]
  · rintro rfl
    simp only [ReaderState.finish?, NumberState.finish?_ofWhole, Option.map_some,
      List.reverse_reverse]

/-- Further digits go in front of those that have been read. -/
theorem run_digits {negative : Bool} {digits : List Nat} (hdigits : digits ≠ [0])
    (hne : digits ≠ []) {more : List Nat} (hmore : ∀ d ∈ more, d < 10) :
    (⟨.number (.ofWhole negative digits), frames⟩ : ReaderState).run bound
        (more.map Nat.digitChar) =
      some ⟨.number (.ofWhole negative (more.reverse ++ digits)), frames⟩ := by
  induction more generalizing digits with
  | nil => rfl
  | cons d more ih =>
    have hstep : (⟨.number (.ofWhole negative digits), frames⟩ : ReaderState).step bound
        (Nat.digitChar d) = some ⟨.number (.ofWhole negative (d :: digits)), frames⟩ := by
      simp only [ReaderState.step,
        NumberState.advance?_ofWhole hdigits hne (hmore d List.mem_cons_self)]
    rw [List.map_cons, ReaderState.run_cons, hstep, Option.bind_some,
      ih (by simp [hne]) (by simp) fun k hk => hmore k (List.mem_cons_of_mem _ hk)]
    simp

theorem start?_digitChar : ∀ d < 10,
    NumberState.start? (Nat.digitChar d) = some (.ofWhole false [d]) := by
  decide

theorem advance?_sign : ∀ d < 10, NumberState.advance? ⟨.sign, true, [], [], false, []⟩
    (Nat.digitChar d) = some (.ofWhole true [d]) := by
  decide

theorem digitChar_ne : ∀ d < 10, isSpace (Nat.digitChar d) = false ∧ Nat.digitChar d ≠ '"' ∧
    Nat.digitChar d ≠ '[' ∧ Nat.digitChar d ≠ '\x7b' ∧ Nat.digitChar d ≠ 'n' ∧
    Nat.digitChar d ≠ 't' ∧ Nat.digitChar d ≠ 'f' ∧ Nat.digitChar d ≠ ']' := by
  decide

theorem step_value_digit {d : Nat} (hd : d < 10) :
    (⟨.value, frames⟩ : ReaderState).step bound (Nat.digitChar d) =
      some ⟨.number (.ofWhole false [d]), frames⟩ := by
  obtain ⟨hspace, hquote, harray, hobject, hn, ht, hf, -⟩ := digitChar_ne d hd
  simp [ReaderState.step, startValue, hspace, hquote, harray, hobject, hn, ht, hf,
    start?_digitChar d hd]

theorem step_value_minus :
    (⟨.value, frames⟩ : ReaderState).step bound '-' =
      some ⟨.number ⟨.sign, true, [], [], false, []⟩, frames⟩ := rfl

theorem step_sign_digit {d : Nat} (hd : d < 10) :
    (⟨.number ⟨.sign, true, [], [], false, []⟩, frames⟩ : ReaderState).step bound
      (Nat.digitChar d) = some ⟨.number (.ofWhole true [d]), frames⟩ := by
  simp only [ReaderState.step, advance?_sign d hd]

/-- The digits after the first one are read, if a zero stands alone. -/
theorem run_digits_after {negative : Bool} {d : Nat} {digits : List Nat}
    (hlt : ∀ k ∈ d :: digits, k < 10) (hzero : d = 0 → digits = []) :
    (⟨.number (.ofWhole negative [d]), frames⟩ : ReaderState).run bound
        (digits.map Nat.digitChar) =
      some ⟨.number (.ofWhole negative (d :: digits).reverse), frames⟩ := by
  -- After a zero no digit may come, and none does.
  by_cases hd : d = 0
  · rw [hzero hd]
    rfl
  · rw [run_digits (by simpa using hd) (by simp) fun k hk => hlt k (List.mem_cons_of_mem _ hk),
      List.reverse_cons]

variable (bound frames)

/-- A printed integer is read as a text of that integer. -/
theorem reads_signedDecimal (n : Int) :
    ∃ text : NumberText, Reads bound frames (Text.signedDecimal n) (.number text) ∧
      text.integer? = some n := by
  cases n with
  | ofNat n =>
    obtain ⟨d, digits, htext, hlt, hvalue, hzero⟩ := exists_decimal_digits n
    refine ⟨⟨false, d :: digits, [], none⟩, ⟨_, ?_, hasRead_ofWhole false (d :: digits)⟩, ?_⟩
    · rw [Text.signedDecimal, htext, List.map_cons, ReaderState.run_cons,
        step_value_digit (hlt d List.mem_cons_self), Option.bind_some, run_digits_after hlt hzero]
    · simp [NumberText.integer?, hvalue]
  | negSucc n =>
    obtain ⟨d, digits, htext, hlt, hvalue, hzero⟩ := exists_decimal_digits (n + 1)
    refine ⟨⟨true, d :: digits, [], none⟩, ⟨_, ?_, hasRead_ofWhole true (d :: digits)⟩, ?_⟩
    · rw [Text.signedDecimal, htext, List.map_cons, ReaderState.run_cons, step_value_minus,
        Option.bind_some, ReaderState.run_cons, step_sign_digit (hlt d List.mem_cons_self),
        Option.bind_some, run_digits_after hlt hzero]
    · simp [NumberText.integer?, hvalue]
      omega

/-! ## Strings -/

variable {bound frames}

/-- The state inside of a string, of which these pieces have been read, the last one first. -/
def insideString (role : StringRole) (pieces : List Piece) (frames : List Frame) : ReaderState :=
  ⟨.string role ⟨.plain, pieces⟩, frames⟩

theorem step_plain {role : StringRole} {pieces : List Piece} {c : Char} (hquote : c ≠ '"')
    (hback : c ≠ '\\') (hcontrol : ¬ c.toNat < 0x20) :
    (insideString role pieces frames).step bound c =
      some (insideString role (.char c :: pieces) frames) := by
  simp [insideString, ReaderState.step, StringState.advance, hquote, hback, hcontrol]

theorem run_escape {role : StringRole} {pieces : List Piece} {letter c : Char}
    (hletter : letter ≠ 'u') (h : simpleEscape? letter = some c) :
    (insideString role pieces frames).run bound ['\\', letter] =
      some (insideString role (.char c :: pieces) frames) := by
  simp [insideString, ReaderState.run, ReaderState.step, StringState.advance, hletter, h]

theorem hexDigit?_hexChar : ∀ d < 16, Text.hexDigit? (hexChar d) = some d := by decide

theorem run_code {role : StringRole} {pieces : List Piece} {n : Nat} (hn : n < 0x20) :
    (insideString role pieces frames).run bound
        ['\\', 'u', '0', '0', hexChar (n / 16), hexChar (n % 16)] =
      some (insideString role (.unit n :: pieces) frames) := by
  have h0 : Text.hexDigit? '0' = some 0 := by decide
  have h1 := hexDigit?_hexChar (n / 16) (by omega)
  have h2 := hexDigit?_hexChar (n % 16) (by omega)
  have hsum : n / 16 * 16 + n % 16 = n := by omega
  simp [insideString, ReaderState.run, ReaderState.step, StringState.advance, h0, h1, h2, hsum]

variable (bound frames)

/-- The text of a character is read as one piece, which stands for the character. -/
theorem run_printChar (role : StringRole) (pieces : List Piece) (c : Char) :
    ∃ piece : Piece,
      (insideString role pieces frames).run bound (printChar c) =
        some (insideString role (piece :: pieces) frames) ∧
      ∀ rest, Piece.text? (piece :: rest) = (Piece.text? rest).map (c :: ·) := by
  unfold printChar
  -- The seven short escapes, the escapes by number, and the characters that stand for themselves.
  split
  · next h =>
    subst h
    exact ⟨.char '"', run_escape (by decide) rfl, fun _ => rfl⟩
  split
  · next h =>
    subst h
    exact ⟨.char '\\', run_escape (by decide) rfl, fun _ => rfl⟩
  split
  · next h =>
    obtain rfl : c = Char.ofNat 8 := by rw [← h, Char.ofNat_toNat]
    exact ⟨.char (Char.ofNat 8), run_escape (by decide) rfl, fun _ => rfl⟩
  split
  · next h =>
    obtain rfl : c = Char.ofNat 12 := by rw [← h, Char.ofNat_toNat]
    exact ⟨.char (Char.ofNat 12), run_escape (by decide) rfl, fun _ => rfl⟩
  split
  · next h =>
    subst h
    exact ⟨.char '\n', run_escape (by decide) rfl, fun _ => rfl⟩
  split
  · next h =>
    subst h
    exact ⟨.char '\r', run_escape (by decide) rfl, fun _ => rfl⟩
  split
  · next h =>
    subst h
    exact ⟨.char '\t', run_escape (by decide) rfl, fun _ => rfl⟩
  split
  · next h =>
    refine ⟨.unit c.toNat, run_code h, fun rest => ?_⟩
    -- A control character is half of no pair, so the number stands for it alone.
    have hhigh : Piece.isHigh c.toNat = false := by simp [Piece.isHigh]; omega
    have hlow : Piece.isLow c.toNat = false := by simp [Piece.isLow]; omega
    rw [Piece.text?.eq_def]
    simp [hhigh, hlow]
  · next hquote hback _ _ _ _ _ hcontrol =>
    refine ⟨.char c, ?_, fun _ => rfl⟩
    rw [ReaderState.run_cons, step_plain hquote hback hcontrol]
    rfl

/-- The text of a row of characters is read as pieces that spell them. -/
theorem run_printChars (role : StringRole) (before : List Piece) (text : List Char) :
    ∃ pieces : List Piece,
      (insideString role before frames).run bound (text.flatMap printChar) =
        some (insideString role (pieces.reverse ++ before) frames) ∧
      Piece.text? pieces = some text := by
  induction text generalizing before with
  | nil => exact ⟨[], rfl, rfl⟩
  | cons c text ih =>
    obtain ⟨piece, hrun, htext⟩ := run_printChar bound frames role before c
    obtain ⟨pieces, hruns, htexts⟩ := ih (piece :: before)
    refine ⟨piece :: pieces, ?_, by rw [htext, htexts, Option.map_some]⟩
    rw [List.flatMap_cons, ReaderState.run_append, hrun, Option.bind_some, hruns]
    simp

/-- A printed string is read, from behind its first quote on, as pieces that spell it. -/
theorem run_printText (role : StringRole) (s : String) :
    ∃ pieces : List Piece, Piece.string? pieces = some s ∧ ∀ rest,
      (insideString role [] frames).run bound (s.toList.flatMap printChar ++ '"' :: rest) =
        (endString role pieces frames).bind fun s' => s'.run bound rest := by
  obtain ⟨pieces, hrun, htext⟩ := run_printChars bound frames role [] s.toList
  refine ⟨pieces, by simp [Piece.string?, htext], fun rest => ?_⟩
  have hquote : (insideString role (pieces.reverse ++ []) frames).step bound '"' =
      endString role pieces frames := by
    simp [insideString, ReaderState.step, StringState.advance]
  rw [ReaderState.run_append, hrun, Option.bind_some, ReaderState.run_cons, hquote]

end Reader

/-! ## Values that can be read back -/

/-- Whether the number is an integer. -/
def Number.IsInteger : Number → Prop
  | .integer _ _ => True
  | .double _ => False

mutual

/-- Whether a printed value is read back where so many arrays and objects may still be opened. -/
def Readable : Nat → Json → Prop
  | _, .null => True
  | _, .flag _ => True
  | _, .number n => n.IsInteger
  | _, .text _ => True
  | room, .array items => 0 < room ∧ ReadableItems (room - 1) items
  | room, .object members =>
    0 < room ∧ Entries.Ascending members ∧ ReadableMembers (room - 1) members

/-- Whether all items can be read back. -/
def ReadableItems : Nat → List Json → Prop
  | _, [] => True
  | room, v :: rest => Readable room v ∧ ReadableItems room rest

/-- Whether the values of all members can be read back. -/
def ReadableMembers : Nat → List (String × Json) → Prop
  | _, [] => True
  | room, (_, v) :: rest => Readable room v ∧ ReadableMembers room rest

end

/-- Items can be read back exactly when each of them can. -/
theorem readableItems_iff {room : Nat} {items : List Json} :
    ReadableItems room items ↔ ∀ v ∈ items, v.Readable room := by
  induction items with
  | nil => simp [ReadableItems]
  | cons v rest ih => simp [ReadableItems, ih]

/-- Members can be read back exactly when the value of each of them can. -/
theorem readableMembers_iff {room : Nat} {members : List (String × Json)} :
    ReadableMembers room members ↔ ∀ e ∈ members, e.2.Readable room := by
  induction members with
  | nil => simp [ReadableMembers]
  | cons e rest ih => obtain ⟨key, v⟩ := e; simp [ReadableMembers, ih]

/-! ## The first character of a value -/

theorem signedDecimal_head (n : Int) :
    ∃ c rest, Text.signedDecimal n = c :: rest ∧ isSpace c = false ∧ c ≠ ']' := by
  cases n with
  | ofNat n =>
    obtain ⟨d, digits, htext, hlt, -, -⟩ := exists_decimal_digits n
    obtain ⟨hspace, -, -, -, -, -, -, hclose⟩ := digitChar_ne d (hlt d List.mem_cons_self)
    exact ⟨_, _, htext, hspace, hclose⟩
  | negSucc n => exact ⟨'-', _, rfl, by decide, by decide⟩

/-- The text of a value starts neither with space nor with the end of an array. -/
theorem print_head {v : Json} {room : Nat} (h : v.Readable room) :
    ∃ c rest, print v = c :: rest ∧ isSpace c = false ∧ c ≠ ']' := by
  cases v with
  | null => exact ⟨_, _, rfl, by decide, by decide⟩
  | flag b => cases b <;> exact ⟨_, _, rfl, by decide, by decide⟩
  | number n =>
    cases n with
    | integer n hn => exact signedDecimal_head n
    | double x => exact h.elim
  | text s => exact ⟨_, _, rfl, by decide, by decide⟩
  | array items => exact ⟨_, _, rfl, by decide, by decide⟩
  | object members => exact ⟨_, _, rfl, by decide, by decide⟩

/-- Where an array may end a value is read as elsewhere. -/
theorem run_firstItem {v : Json} {room : Nat} (h : v.Readable room) (bound : Option Nat)
    (frames : List Frame) (rest : List Char) :
    (⟨.firstItem, frames⟩ : ReaderState).run bound (print v ++ rest) =
      (⟨.value, frames⟩ : ReaderState).run bound (print v ++ rest) := by
  obtain ⟨c, more, htext, hspace, hclose⟩ := print_head h
  rw [htext, List.cons_append, ReaderState.run_cons, ReaderState.run_cons]
  simp [ReaderState.step, hspace, hclose]

theorem printItems_cons (v : Json) (rest : List Json) :
    ∃ more, printItems (v :: rest) = print v ++ more := by
  cases rest with
  | nil => exact ⟨[], by simp [printItems]⟩
  | cons w rest => exact ⟨_, rfl⟩

/-! ## Values -/

section Values

variable (bound : Option Nat) (frames : List Frame)

theorem reads_number (n : Number) (h : n.IsInteger) :
    ∃ t, Reads bound frames (print (.number n)) t ∧ t.value? = some (.number n) := by
  cases n with
  | integer n hn =>
    obtain ⟨text, hreads, hvalue⟩ := reads_signedDecimal bound frames n
    refine ⟨.number text, hreads, ?_⟩
    simp only [Tree.value?, NumberText.value?, hvalue, dif_pos hn, Option.map_some]
  | double x => exact h.elim

theorem reads_text (s : String) :
    ∃ t, Reads bound frames (print (.text s)) t ∧ t.value? = some (.text s) := by
  obtain ⟨pieces, hpieces, hrun⟩ := run_printText bound frames .item s
  refine ⟨.text pieces, ⟨_, ?_, hasRead_done _⟩, by simp [Tree.value?, hpieces]⟩
  exact hrun []

/-- A key with its colon is read as pieces that spell it, and the value of the key comes next. -/
theorem run_key (members : List (List Piece × Tree)) (key : String) :
    ∃ pieces, Piece.string? pieces = some key ∧ ∀ rest,
      (insideString .key [] (.object members :: frames)).run bound
          (key.toList.flatMap printChar ++ '"' :: ':' :: rest) =
        (⟨.value, .member members pieces :: frames⟩ : ReaderState).run bound rest := by
  obtain ⟨pieces, hpieces, hrun⟩ :=
    run_printText bound (.object members :: frames) .key key
  refine ⟨pieces, hpieces, fun rest => ?_⟩
  rw [hrun]
  rfl

end Values

mutual

/-- The text of a value is read as a tree of that value. -/
theorem reads_print (n : Nat) : ∀ (v : Json) (frames : List Frame) {room : Nat}, v.Readable room →
    frames.length + room ≤ n → ∃ t, Reads (some n) frames (print v) t ∧ t.value? = some v
  | .null, _, _, _, _ => ⟨.null, ⟨_, rfl, hasRead_done _⟩, rfl⟩
  | .flag true, _, _, _, _ => ⟨.flag true, ⟨_, rfl, hasRead_done _⟩, rfl⟩
  | .flag false, _, _, _, _ => ⟨.flag false, ⟨_, rfl, hasRead_done _⟩, rfl⟩
  | .number m, frames, _, h, _ => reads_number (some n) frames m h
  | .text s, frames, _, _, _ => reads_text (some n) frames s
  | .array items, frames, room, ⟨hroom, hitems⟩, hn => by
    have hopen : mayOpen (some n) frames = true := by simp [mayOpen]; omega
    have hstep : (⟨.value, frames⟩ : ReaderState).step (some n) '[' =
        some ⟨.firstItem, .array [] :: frames⟩ := by
      simp [ReaderState.step, startValue, isSpace, hopen]
    cases items with
    | nil =>
      refine ⟨.array [], ⟨⟨.done (.array []), frames⟩, ?_, hasRead_done _⟩, rfl⟩
      show (⟨.value, frames⟩ : ReaderState).run (some n) ['[', ']'] = _
      rw [ReaderState.run_cons, hstep]
      rfl
    | cons v rest =>
      obtain ⟨ts, hvalues, hrun⟩ :=
        run_printItems n (v :: rest) frames [] (by simp) hitems (by omega)
      refine ⟨.array ts, ⟨⟨.done (.array ts), frames⟩, ?_, hasRead_done _⟩, ?_⟩
      -- The first item may not be the end of the array, and its text does not start like that.
      · obtain ⟨more, hmore⟩ := printItems_cons v rest
        rw [print, List.cons_append, ReaderState.run_cons, hstep, Option.bind_some]
        have hclosed := hrun []
        rw [hmore, List.append_assoc] at hclosed ⊢
        rw [run_firstItem hitems.1]
        exact hclosed
      · simp [Tree.value?, hvalues]
  | .object members, frames, room, ⟨hroom, hascending, hmembers⟩, hn => by
    have hopen : mayOpen (some n) frames = true := by simp [mayOpen]; omega
    have hstep : (⟨.value, frames⟩ : ReaderState).step (some n) '\x7b' =
        some ⟨.firstKey, .object [] :: frames⟩ := by
      simp [ReaderState.step, startValue, isSpace, hopen]
    cases members with
    | nil =>
      refine ⟨.object [], ⟨⟨.done (.object []), frames⟩, ?_, hasRead_done _⟩, rfl⟩
      show (⟨.value, frames⟩ : ReaderState).run (some n) ['\x7b', '}'] = _
      rw [ReaderState.run_cons, hstep]
      rfl
    | cons member rest =>
      obtain ⟨ts, hentries, text, htext, hrun⟩ :=
        run_printMembers n (member :: rest) frames [] (by simp) hmembers (by omega)
      refine ⟨.object ts, ⟨⟨.done (.object ts), frames⟩, ?_, hasRead_done _⟩, ?_⟩
      · rw [print, htext, List.cons_append, ReaderState.run_cons, hstep, Option.bind_some]
        exact hrun []
      · -- The members ascend, so putting them in order again moves none of them.
        simp [Tree.value?, hentries, Entries.ofList_of_ascending hascending]

/-- The text of the items of an array is read as trees of these items. -/
theorem run_printItems (n : Nat) : ∀ (items : List Json) (frames : List Frame) (acc : List Tree)
    {room : Nat}, items ≠ [] → ReadableItems room items → frames.length + 1 + room ≤ n →
    ∃ ts, Tree.values? ts = some items ∧ ∀ rest,
      (⟨.value, .array acc :: frames⟩ : ReaderState).run (some n)
          (printItems items ++ ']' :: rest) =
        (⟨.done (.array (acc.reverse ++ ts)), frames⟩ : ReaderState).run (some n) rest
  | [], _, _, _, h, _, _ => absurd rfl h
  | [v], frames, acc, room, _, hitems, hn => by
    obtain ⟨t, hreads, hvalue⟩ := reads_print n v (.array acc :: frames) hitems.1 hn
    refine ⟨[t], by simp [Tree.values?, hvalue], fun rest => ?_⟩
    rw [printItems, hreads.run_append (by decide)]
    simp [afterValue, isSpace]
  | v :: w :: items, frames, acc, room, _, hitems, hn => by
    obtain ⟨t, hreads, hvalue⟩ := reads_print n v (.array acc :: frames) hitems.1 hn
    obtain ⟨ts, hvalues, hrun⟩ :=
      run_printItems n (w :: items) frames (t :: acc) (by simp) hitems.2 hn
    refine ⟨t :: ts, by simp [Tree.values?, hvalue, hvalues], fun rest => ?_⟩
    have htext : printItems (v :: w :: items) ++ ']' :: rest =
        print v ++ ',' :: (printItems (w :: items) ++ ']' :: rest) := by
      simp [printItems]
    rw [htext, hreads.run_append (by decide)]
    simp only [afterValue, isSpace]
    simpa using hrun rest

/-- The text of the members of an object is read as trees of these members. -/
theorem run_printMembers (n : Nat) : ∀ (members : List (String × Json)) (frames : List Frame)
    (acc : List (List Piece × Tree)) {room : Nat}, members ≠ [] →
    ReadableMembers room members → frames.length + 1 + room ≤ n →
    ∃ ts, Tree.entries? ts = some members ∧ ∃ text, printMembers members = '"' :: text ∧ ∀ rest,
      (insideString .key [] (.object acc :: frames)).run (some n) (text ++ '}' :: rest) =
        (⟨.done (.object (acc.reverse ++ ts)), frames⟩ : ReaderState).run (some n) rest
  | [], _, _, _, h, _, _ => absurd rfl h
  | [(key, v)], frames, acc, room, _, hmembers, hn => by
    obtain ⟨pieces, hpieces, hkey⟩ := run_key (some n) frames acc key
    obtain ⟨t, hreads, hvalue⟩ := reads_print n v (.member acc pieces :: frames) hmembers.1 hn
    refine ⟨[(pieces, t)], by simp [Tree.entries?, hpieces, hvalue],
      key.toList.flatMap printChar ++ '"' :: ':' :: print v, by simp [printMembers, printText],
      fun rest => ?_⟩
    rw [List.append_assoc, List.cons_append, List.cons_append, hkey,
      hreads.run_append (by decide)]
    simp [afterValue, isSpace]
  | (key, v) :: member :: members, frames, acc, room, _, hmembers, hn => by
    obtain ⟨pieces, hpieces, hkey⟩ := run_key (some n) frames acc key
    obtain ⟨t, hreads, hvalue⟩ := reads_print n v (.member acc pieces :: frames) hmembers.1 hn
    obtain ⟨ts, hentries, text, htext, hrun⟩ :=
      run_printMembers n (member :: members) frames ((pieces, t) :: acc) (by simp) hmembers.2 hn
    refine ⟨(pieces, t) :: ts, by simp [Tree.entries?, hpieces, hvalue, hentries],
      key.toList.flatMap printChar ++ '"' :: ':' :: (print v ++ ',' :: '"' :: text),
      by simp [printMembers, printText, htext], fun rest => ?_⟩
    rw [List.append_assoc, List.cons_append, List.cons_append, hkey, List.append_assoc,
      List.cons_append, hreads.run_append (by decide)]
    simp only [afterValue, isSpace]
    have hclosed := hrun rest
    simp only [List.reverse_cons, List.append_assoc, List.singleton_append] at hclosed
    rw [List.cons_append, ← hclosed]
    -- The quote after the comma only opens the next key.
    rfl

end

/-- A printed value is read back. -/
theorem ofBytes?_toBytes {v : Json} (h : v.Readable maxDepth) : ofBytes? v.toBytes = some v := by
  obtain ⟨t, ⟨s, hrun, hread⟩, hvalue⟩ :=
    reads_print maxDepth v [] h (Nat.le_of_eq (Nat.zero_add _))
  have htree : Tree.read? (some maxDepth) (print v) = some t := by
    rw [Tree.read?, ReaderState.start, hrun, Option.bind_some, hread.finish?_eq rfl]
  rw [ofBytes?, toBytes, Utf8.decode?_encode, Option.bind_some, parse?, htree, Option.bind_some,
    hvalue]

end SessionHandoff.Json
