import SessionHandoff.Proofs.Text.Digits
import SessionHandoff.Text.Shown

/-!
# Values that are shown differently

The text of a value in one line can be taken from the front of a longer text without losing where it
ends (`ToldApart`). So two values with the same text are the same value (`Shown.Plain.inline_inj`),
whatever their quoted texts contain, provided that the words which stand unquoted are names
(`Shown.Plain`).

A value is told from others by the name it starts with and by what follows the name, its body. A
body starts with a mark that no name has, and with which no text behind a value starts (`Ends`).
Inside of quotes, each character is told apart by its escape, and no escape starts with a quote. The
items of a list are told apart one after the other, and what closes the list (`Closes`) from one
more item.
-/

set_option autoImplicit false

namespace SessionHandoff.Text

/-! ## Texts that can be taken from the front -/

section ToldApart

variable {α : Type} {Follows Stops : List Char → Prop} {f : α → List Char}

/-- In front of texts that may follow, the texts of two values are the same only if the values are,
and then what follows is the same as well. -/
def ToldApart (Follows : List Char → Prop) (f : α → List Char) (v w : α) : Prop :=
  ∀ s t, Follows s → Follows t → f v ++ s = f w ++ t → v = w ∧ s = t

/-- Texts that are told apart in front of what closes them are told apart where they are enclosed,
whatever follows. -/
theorem ToldApart.enclosed {v w : α} (apart : ToldApart Follows f v w) (opening closing : List Char)
    (inside : ∀ s, Follows (closing ++ s)) {s t : List Char}
    (same : opening ++ f v ++ closing ++ s = opening ++ f w ++ closing ++ t) : v = w ∧ s = t := by
  have same' : f v ++ (closing ++ s) = f w ++ (closing ++ t) := by
    simpa only [List.append_assoc, List.append_cancel_left_eq] using same
  obtain ⟨values, rest⟩ := apart _ _ (inside s) (inside t) same'
  exact ⟨values, List.append_cancel_left rest⟩

/-- The same start in front of every text changes nothing. -/
theorem ToldApart.after {v w : α} (start : List Char) (apart : ToldApart Follows f v w) :
    ToldApart Follows (fun v => start ++ f v) v w := by
  intro s t hs ht same
  have same' : f v ++ s = f w ++ t := by
    simpa only [List.append_assoc, List.append_cancel_left_eq] using same
  exact apart s t hs ht same'

/-- What follows one text of a row. -/
theorem follows_flatMap (goesOn : ∀ v s, Follows (f v ++ s)) {s : List Char} (hs : Follows s)
    (vs : List α) : Follows (vs.flatMap f ++ s) := by
  cases vs with
  | nil => exact hs
  | cons v vs =>
    rw [List.flatMap_cons, List.append_assoc]
    exact goesOn v _

/-- A row of texts is told apart if each of them is, and if what stops the row starts like none of
them: then neither row can stop where the other one goes on. -/
theorem ToldApart.flatMap {vs ws : List α}
    (apart : ∀ v ∈ vs, ∀ w ∈ ws, ToldApart Follows f v w)
    (goesOn : ∀ v s, Follows (f v ++ s)) (stops : ∀ s, Stops s → Follows s)
    (differs : ∀ v s, ¬ Stops (f v ++ s)) : ToldApart Stops (fun vs => vs.flatMap f) vs ws := by
  intro s t hs ht same
  dsimp only at same
  induction vs generalizing ws with
  | nil =>
    cases ws with
    | nil => exact ⟨rfl, same⟩
    | cons w ws =>
      rw [List.flatMap_cons, List.append_assoc] at same
      have hw : Stops (f w ++ (ws.flatMap f ++ t)) := same ▸ hs
      exact absurd hw (differs w _)
  | cons v vs ih =>
    rw [List.flatMap_cons, List.append_assoc] at same
    cases ws with
    | nil =>
      have hv : Stops (f v ++ (vs.flatMap f ++ s)) := same ▸ ht
      exact absurd hv (differs v _)
    | cons w ws =>
      rw [List.flatMap_cons, List.append_assoc] at same
      have first := apart v List.mem_cons_self w List.mem_cons_self _ _
        (follows_flatMap goesOn (stops s hs) vs) (follows_flatMap goesOn (stops t ht) ws) same
      have others := ih
        (fun v hv w hw => apart v (List.mem_cons_of_mem _ hv) w (List.mem_cons_of_mem _ hw)) first.2
      exact ⟨by rw [first.1, others.1], others.2⟩

end ToldApart

/-! ## Quoted texts -/

/-- The character that a letter behind a backslash stands for. -/
def escaped (letter : Char) : Char :=
  if letter = 'n' then '\n'
  else if letter = 'r' then '\r'
  else if letter = 't' then '\t'
  else if letter = '0' then '\x00'
  else letter

/-- A character is escaped by one letter, by its number, or not at all. -/
theorem quoteChar_cases (c : Char) :
    (∃ letter, letter ≠ 'u' ∧ c = escaped letter ∧ quoteChar c = ['\\', letter]) ∨
      quoteChar c = '\\' :: 'u' :: '\x7b' :: (hexadecimal c.toNat ++ ['}']) ∨
      (c ≠ '"' ∧ c ≠ '\\' ∧ quoteChar c = [c]) := by
  unfold quoteChar
  split_ifs with h1 h2 h3 h4 h5 h6 h7
  · exact .inl ⟨'"', by decide, h1, rfl⟩
  · exact .inl ⟨'\\', by decide, h2, rfl⟩
  · exact .inl ⟨'n', by decide, h3, rfl⟩
  · exact .inl ⟨'r', by decide, h4, rfl⟩
  · exact .inl ⟨'t', by decide, h5, rfl⟩
  · have : c = '\x00' := Char.toNat_inj.1 h6
    exact .inl ⟨'0', by decide, this, rfl⟩
  · exact .inr (.inl rfl)
  · exact .inr (.inr ⟨h1, h2, rfl⟩)

/-- No escape starts like the end of a quoted text. -/
theorem quoteChar_append_ne (c : Char) (s r : List Char) : quoteChar c ++ s ≠ '"' :: r := by
  intro h
  rcases quoteChar_cases c with ⟨letter, -, -, hc⟩ | hc | ⟨hquote, -, hc⟩
  · rw [hc] at h
    exact absurd (List.cons.inj h).1 (by decide)
  · rw [hc] at h
    exact absurd (List.cons.inj h).1 (by decide)
  · rw [hc] at h
    exact hquote (List.cons.inj h).1

/-- An escape tells its character and where the escape ends. -/
theorem toldApart_quoteChar (c d : Char) : ToldApart (fun _ => True) quoteChar c d := by
  intro s t _ _ same
  rcases quoteChar_cases c with ⟨l, hl, rfl, hc⟩ | hc | ⟨-, hslash, hc⟩ <;>
    rcases quoteChar_cases d with ⟨l', hl', rfl, hd⟩ | hd | ⟨-, hslash', hd⟩ <;>
    rw [hc, hd] at same <;>
    simp only [List.cons_append, List.nil_append, List.append_assoc, List.cons.injEq,
      true_and] at same
  -- The first by a letter, which is never the one in front of a number.
  · obtain ⟨rfl, rfl⟩ := same
    exact ⟨rfl, rfl⟩
  · exact absurd same.1 hl
  · exact absurd same.1.symm hslash'
  -- The first by its number: the brace behind the digits is none of them.
  · exact absurd same.1.symm hl'
  · obtain ⟨digits, rest⟩ := name_append_inj
      (fun c hc => isNameChar_of_mem_toDigits (by decide) (by decide) hc)
      (fun c hc => isNameChar_of_mem_toDigits (by decide) (by decide) hc)
      (Halts.cons _ (by decide)) (Halts.cons _ (by decide)) same
    exact ⟨Char.toNat_inj.1 (toDigits_inj (by decide) (by decide) digits), (List.cons.inj rest).2⟩
  · exact absurd same.1.symm hslash'
  -- The first not at all, so it is no backslash.
  · exact absurd same.1 hslash
  · exact absurd same.1 hslash
  · exact same

/-- A quoted text tells the text and where it ends, whatever its characters are. -/
theorem toldApart_quoted (a b : String) : ToldApart (fun _ => True) quoted a b := by
  have each : ∀ c ∈ a.toList, ∀ d ∈ b.toList, ToldApart (fun _ => True) quoteChar c d :=
    fun c _ d _ => toldApart_quoteChar c d
  have row : ToldApart (fun s => ∃ r, s = '"' :: r) (fun cs => cs.flatMap quoteChar)
      a.toList b.toList := by
    apply ToldApart.flatMap each (fun _ _ => trivial) (fun _ _ => trivial)
    rintro c s ⟨r, h⟩
    exact quoteChar_append_ne c s r h
  intro s t _ _ same
  obtain ⟨chars, ends⟩ := row.enclosed ['"'] ['"'] (fun s => ⟨s, rfl⟩) same
  exact ⟨String.toList_inj.1 chars, ends⟩

/-! ## What stands behind a value -/

/-- What closes a list, a map or a record, and all that follows it. -/
inductive Closes : List Char → Prop
  | bracket (s : List Char) : Closes (']' :: s)
  | brace (s : List Char) : Closes ('}' :: s)
  | spacedBrace (s : List Char) : Closes (' ' :: '}' :: s)

theorem Closes.head {c : Char} {r : List Char} (h : Closes (c :: r)) :
    c = ']' ∨ c = '}' ∨ c = ' ' := by
  cases h with
  | bracket s => exact .inl rfl
  | brace s => exact .inr (.inl rfl)
  | spacedBrace s => exact .inr (.inr rfl)

/-- What may stand behind a value. -/
inductive Ends : List Char → Prop
  | nothing : Ends []
  | comma (s : List Char) : Ends (',' :: s)
  | colon (s : List Char) : Ends (':' :: s)
  | parenthesis (s : List Char) : Ends (')' :: s)
  | closes {s : List Char} (h : Closes s) : Ends s

theorem Ends.halts {s : List Char} (h : Ends s) : Halts s := by
  cases h with
  | nothing =>
    intro c r h
    cases h
  | comma s => exact .cons s (by decide)
  | colon s => exact .cons s (by decide)
  | parenthesis s => exact .cons s (by decide)
  | closes h =>
    cases h with
    | bracket s => exact .cons s (by decide)
    | brace s => exact .cons s (by decide)
    | spacedBrace s => exact .cons _ (by decide)

/-- A name does not start like what closes something. -/
theorem IsName.not_closes {n : String} (hn : IsName n) (s : List Char) :
    ¬ Closes (n.toList ++ s) := by
  obtain ⟨nonempty, chars⟩ := hn
  intro h
  obtain ⟨c, r, heq⟩ := List.exists_cons_of_ne_nil nonempty
  have hc : isNameChar c = true := chars c (heq ▸ List.mem_cons_self)
  rw [heq, List.cons_append] at h
  obtain rfl | rfl | rfl := h.head <;> exact absurd hc (by decide)

/-! ## Lists -/

section Separated

variable {α : Type} {f : α → List Char}

/-- Texts with commas between them. -/
def separated (f : α → List Char) : List α → List Char
  | [] => []
  | v :: rest => f v ++ rest.flatMap fun w => [',', ' '] ++ f w

theorem separated_cons (v : α) (rest : List α) (s : List Char) :
    separated f (v :: rest) ++ s = f v ++ ((rest.flatMap fun w => [',', ' '] ++ f w) ++ s) := by
  rw [separated, List.append_assoc]

/-- A list is told apart if its items are and none of them starts like what closes the list. -/
theorem toldApart_separated {vs ws : List α}
    (apart : ∀ v ∈ vs, ∀ w ∈ ws, ToldApart Ends f v w)
    (left : ∀ v ∈ vs, ∀ s, ¬ Closes (f v ++ s)) (right : ∀ w ∈ ws, ∀ s, ¬ Closes (f w ++ s)) :
    ToldApart Closes (separated f) vs ws := by
  have goesOn : ∀ v s, Ends ([',', ' '] ++ f v ++ s) := fun v s => .comma _
  intro s t hs ht same
  cases vs with
  | nil =>
    cases ws with
    | nil => exact ⟨rfl, same⟩
    | cons w ws =>
      rw [separated_cons, separated, List.nil_append] at same
      rw [same] at hs
      exact absurd hs (right w List.mem_cons_self _)
  | cons v vs =>
    rw [separated_cons] at same
    cases ws with
    | nil =>
      rw [separated, List.nil_append] at same
      rw [← same] at ht
      exact absurd ht (left v List.mem_cons_self _)
    | cons w ws =>
      rw [separated_cons] at same
      have first := apart v List.mem_cons_self w List.mem_cons_self _ _
        (follows_flatMap goesOn (.closes hs) vs) (follows_flatMap goesOn (.closes ht) ws) same
      have each : ∀ v ∈ vs, ∀ w ∈ ws, ToldApart Ends (fun w => [',', ' '] ++ f w) v w :=
        fun v hv w hw =>
          (apart v (List.mem_cons_of_mem _ hv) w (List.mem_cons_of_mem _ hw)).after [',', ' ']
      have row : ToldApart Closes (fun vs => vs.flatMap fun w => [',', ' '] ++ f w) vs ws := by
        apply ToldApart.flatMap each goesOn (fun s hs => .closes hs)
        intro v s h
        cases h
      have others := row s t hs ht first.2
      exact ⟨by rw [first.1, others.1], others.2⟩

end Separated

namespace Shown

/-! ## Names and bodies -/

/-- A key and its value. -/
def entryText (e : Shown × Shown) : List Char :=
  e.1.inline ++ ':' :: ' ' :: e.2.inline

/-- A named part. -/
def fieldText (e : String × Shown) : List Char :=
  e.1.toList ++ ':' :: ' ' :: e.2.inline

theorem inlineItems_eq (items : List Shown) : inlineItems items = separated inline items := by
  induction items with
  | nil => rw [inlineItems, separated]
  | cons v rest ih =>
    cases rest with
    | nil => simp [inlineItems, separated]
    | cons w rest => simp [inlineItems, ih, separated]

theorem inlineEntries_eq (entries : List (Shown × Shown)) :
    inlineEntries entries = separated entryText entries := by
  induction entries with
  | nil => rw [inlineEntries, separated]
  | cons e rest ih =>
    cases rest with
    | nil => simp [inlineEntries, separated, entryText]
    | cons e' rest => simp [inlineEntries, ih, separated, entryText]

theorem inlineFields_eq (fields : List (String × Shown)) :
    inlineFields fields = separated fieldText fields := by
  induction fields with
  | nil => rw [inlineFields, separated]
  | cons e rest ih =>
    cases rest with
    | nil => simp [inlineFields, separated, fieldText]
    | cons e' rest => simp [inlineFields, ih, separated, fieldText]

/-- The name that the text of a value starts with. -/
def name : Shown → List Char
  | .word s => s.toList
  | .wrapped name _ => name.toList
  | .record name _ => name.toList
  | .text _ => []
  | .list _ => []
  | .map _ => []

/-- The text of a value behind its name. -/
def body : Shown → List Char
  | .word _ => []
  | .text s => quoted s
  | .wrapped _ part => ['('] ++ part.inline ++ [')']
  | .list items => ['['] ++ separated inline items ++ [']']
  | .map entries => ['\x7b'] ++ separated entryText entries ++ ['}']
  | .record _ fields => [' ', '\x7b', ' '] ++ separated fieldText fields ++ [' ', '}']

theorem inline_eq_name_append_body (v : Shown) : v.inline = v.name ++ v.body := by
  cases v with
  | word s => simp [inline, name, body]
  | text s => simp [inline, name, body]
  | wrapped n part => simp [inline, name, body]
  | list items => simp [inline, name, body, inlineItems_eq]
  | map entries => simp [inline, name, body, inlineEntries_eq]
  | record n fields => simp [inline, name, body, inlineFields_eq]

/-- The mark that the body of a value starts with. -/
def mark : Shown → Option Char
  | .word _ => none
  | .text _ => some '"'
  | .wrapped _ _ => some '('
  | .list _ => some '['
  | .map _ => some '\x7b'
  | .record _ _ => some ' '

theorem head?_body {v : Shown} {c : Char} (hc : v.mark = some c) (s : List Char) :
    (v.body ++ s).head? = some c := by
  cases v with
  | word w => cases hc
  | text a => exact hc
  | wrapped n part => exact hc
  | list items => exact hc
  | map entries => exact hc
  | record n fields => exact hc

/-- What may stand behind a value starts like no body. -/
theorem mark_eq_none_of_ends {v : Shown} {s : List Char} (h : Ends (v.body ++ s)) :
    v.mark = none := by
  cases v with
  | word w => rfl
  | text a => rcases h with _ | _ | _ | _ | h; cases h
  | wrapped n part => rcases h with _ | _ | _ | _ | h; cases h
  | list items => rcases h with _ | _ | _ | _ | h; cases h
  | map entries => rcases h with _ | _ | _ | _ | h; cases h
  -- A record opens with a space and a brace, and closes with a space and the other brace.
  | record n fields => rcases h with _ | _ | _ | _ | h; cases h

theorem body_of_mark_eq_none {v : Shown} (h : v.mark = none) : v.body = [] := by
  cases v with
  | word w => rfl
  | text a => cases h
  | wrapped n part => cases h
  | list items => cases h
  | map entries => cases h
  | record n fields => cases h

/-- Bodies that are not told apart start with the same mark. -/
theorem mark_eq {v w : Shown} {s t : List Char} (hs : Ends s) (ht : Ends t)
    (bodies : v.body ++ s = w.body ++ t) : v.mark = w.mark := by
  cases hv : v.mark with
  | none =>
    have hw : Ends (w.body ++ t) := by
      rw [← bodies, body_of_mark_eq_none hv]
      exact hs
    exact (mark_eq_none_of_ends hw).symm
  | some c =>
    cases hw : w.mark with
    | none =>
      have hv' : Ends (v.body ++ s) := by
        rw [bodies, body_of_mark_eq_none hw]
        exact ht
      rw [mark_eq_none_of_ends hv'] at hv
      cases hv
    | some d =>
      rw [← head?_body hv s, ← head?_body hw t, bodies]

/-- A body does not go on with the name before it. -/
theorem halts_body (v : Shown) {s : List Char} (hs : Ends s) : Halts (v.body ++ s) := by
  cases v with
  | word w => exact hs.halts
  | text a => exact .cons _ (by decide)
  | wrapped n part => exact .cons _ (by decide)
  | list items => exact .cons _ (by decide)
  | map entries => exact .cons _ (by decide)
  | record n fields => exact .cons _ (by decide)

/-! ## Values with names only -/

/-- A value in which only names stand unquoted. -/
inductive Plain : Shown → Prop
  | word {s : String} (named : IsName s) : Plain (.word s)
  | text (s : String) : Plain (.text s)
  | wrapped {n : String} {part : Shown} (named : IsName n) (plain : Plain part) :
      Plain (.wrapped n part)
  | list {items : List Shown} (plain : ∀ v ∈ items, Plain v) : Plain (.list items)
  | map {entries : List (Shown × Shown)} (keys : ∀ e ∈ entries, Plain e.1)
      (values : ∀ e ∈ entries, Plain e.2) : Plain (.map entries)
  | record {n : String} {fields : List (String × Shown)} (named : IsName n)
      (names : ∀ e ∈ fields, IsName e.1) (values : ∀ e ∈ fields, Plain e.2) :
      Plain (.record n fields)

namespace Plain

variable {v w : Shown}

theorem record_of_forall {n : String} {fields : List (String × Shown)} (named : IsName n)
    (parts : ∀ e ∈ fields, IsName e.1 ∧ e.2.Plain) : Plain (.record n fields) :=
  .record named (fun e he => (parts e he).1) (fun e he => (parts e he).2)

theorem isNameChar_of_mem_name (hv : v.Plain) : ∀ c ∈ v.name, isNameChar c = true := by
  intro c hc
  cases hv with
  | word named => exact named.2 c hc
  | wrapped named _ => exact named.2 c hc
  | record named _ _ => exact named.2 c hc
  | text _ => cases hc
  | list _ => cases hc
  | map _ _ => cases hc

/-- No value starts like what closes something. -/
theorem not_closes (hv : v.Plain) (s : List Char) : ¬ Closes (v.inline ++ s) := by
  rw [inline_eq_name_append_body, List.append_assoc]
  cases hv with
  | word named => exact named.not_closes _
  | wrapped named _ => exact named.not_closes _
  | record named _ _ => exact named.not_closes _
  | text _ => rintro ⟨⟩
  | list _ => rintro ⟨⟩
  | map _ _ => rintro ⟨⟩

theorem entry_not_closes {e : Shown × Shown} (he : e.1.Plain) (s : List Char) :
    ¬ Closes (entryText e ++ s) := by
  rw [entryText, List.append_assoc]
  exact he.not_closes _

theorem field_not_closes {e : String × Shown} (he : IsName e.1) (s : List Char) :
    ¬ Closes (fieldText e ++ s) := by
  rw [fieldText, List.append_assoc]
  exact he.not_closes _

/-- Values are told apart if those of them are that have the same name and bodies with the same
mark. -/
theorem toldApart_of_bodies (hv : v.Plain) (hw : w.Plain)
    (apart : ∀ s t, Ends s → Ends t → v.name = w.name → v.mark = w.mark →
      v.body ++ s = w.body ++ t → v = w ∧ s = t) : ToldApart Ends inline v w := by
  intro s t hs ht same
  rw [inline_eq_name_append_body, inline_eq_name_append_body, List.append_assoc,
    List.append_assoc] at same
  obtain ⟨names, bodies⟩ := name_append_inj hv.isNameChar_of_mem_name hw.isNameChar_of_mem_name
    (halts_body v hs) (halts_body w ht) same
  exact apart s t hs ht names (mark_eq hs ht bodies) bodies

theorem toldApart_entry {e e' : Shown × Shown} (key : ToldApart Ends inline e.1 e'.1)
    (value : ToldApart Ends inline e.2 e'.2) : ToldApart Ends entryText e e' := by
  intro s t hs ht same
  rw [entryText, entryText, List.append_assoc, List.append_assoc] at same
  obtain ⟨keys, rest⟩ := key _ _ (.colon _) (.colon _) same
  obtain ⟨values, ends⟩ := value s t hs ht (List.cons.inj (List.cons.inj rest).2).2
  exact ⟨Prod.ext keys values, ends⟩

theorem toldApart_field {e e' : String × Shown} (he : IsName e.1) (he' : IsName e'.1)
    (value : ToldApart Ends inline e.2 e'.2) : ToldApart Ends fieldText e e' := by
  intro s t hs ht same
  rw [fieldText, fieldText, List.append_assoc, List.append_assoc] at same
  obtain ⟨names, rest⟩ := name_append_inj he.2 he'.2 (.cons _ (by decide)) (.cons _ (by decide)) same
  obtain ⟨values, ends⟩ := value s t hs ht (List.cons.inj (List.cons.inj rest).2).2
  exact ⟨Prod.ext (String.toList_inj.1 names) values, ends⟩

/-- The text of a value tells the value and where the text ends. -/
theorem toldApart (hv : v.Plain) (hw : w.Plain) : ToldApart Ends inline v w := by
  -- By induction on the first value. By its mark, the second one is of the same kind.
  induction hv generalizing w with
  | word named =>
    apply toldApart_of_bodies (.word named) hw
    intro s t hs ht names marks bodies
    cases hw with
    | word _ => exact ⟨by rw [String.toList_inj.1 names], bodies⟩
    | _ => simp [mark] at marks
  | text a =>
    apply toldApart_of_bodies (.text a) hw
    intro s t hs ht names marks bodies
    cases hw with
    | text b =>
      obtain ⟨texts, ends⟩ := toldApart_quoted a b s t trivial trivial bodies
      exact ⟨by rw [texts], ends⟩
    | _ => simp [mark] at marks
  | wrapped named plain ih =>
    apply toldApart_of_bodies (.wrapped named plain) hw
    intro s t hs ht names marks bodies
    cases hw with
    | wrapped _ plain' =>
      obtain ⟨parts, ends⟩ :=
        (ih plain').enclosed ['('] [')'] (fun s => .parenthesis s) bodies
      exact ⟨by rw [String.toList_inj.1 names, parts], ends⟩
    | _ => simp [mark] at marks
  | list plain ih =>
    apply toldApart_of_bodies (.list plain) hw
    intro s t hs ht names marks bodies
    cases hw with
    | list plain' =>
      have row := toldApart_separated (fun v hv w hw => ih v hv (plain' w hw))
        (fun v hv => (plain v hv).not_closes) (fun w hw => (plain' w hw).not_closes)
      obtain ⟨items, ends⟩ := row.enclosed ['['] [']'] (fun s => .bracket s) bodies
      exact ⟨by rw [items], ends⟩
    | _ => simp [mark] at marks
  | map keys values keysApart valuesApart =>
    apply toldApart_of_bodies (.map keys values) hw
    intro s t hs ht names marks bodies
    cases hw with
    | map keys' values' =>
      have row := toldApart_separated
        (fun e he e' he' =>
          toldApart_entry (keysApart e he (keys' e' he')) (valuesApart e he (values' e' he')))
        (fun e he => entry_not_closes (keys e he)) (fun e he => entry_not_closes (keys' e he))
      obtain ⟨entries, ends⟩ := row.enclosed ['\x7b'] ['}'] (fun s => .brace s) bodies
      exact ⟨by rw [entries], ends⟩
    | _ => simp [mark] at marks
  | record named fieldNames values valuesApart =>
    apply toldApart_of_bodies (.record named fieldNames values) hw
    intro s t hs ht names marks bodies
    cases hw with
    | record _ fieldNames' values' =>
      have row := toldApart_separated
        (fun e he e' he' => toldApart_field (fieldNames e he) (fieldNames' e' he')
          (valuesApart e he (values' e' he')))
        (fun e he => field_not_closes (fieldNames e he))
        (fun e he => field_not_closes (fieldNames' e he))
      obtain ⟨fields, ends⟩ :=
        row.enclosed [' ', '\x7b', ' '] [' ', '}'] (fun s => .spacedBrace s) bodies
      exact ⟨by rw [String.toList_inj.1 names, fields], ends⟩
    | _ => simp [mark] at marks

/-- A value is told by its text. -/
theorem inline_inj (hv : v.Plain) (hw : w.Plain) : v.inline = w.inline ↔ v = w := by
  constructor
  · intro same
    exact (hv.toldApart hw [] [] .nothing .nothing (by rw [same])).1
  · intro h
    rw [h]

end Plain

end Shown

end SessionHandoff.Text
