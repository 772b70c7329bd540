import SessionHandoff.Proofs.Cipher.Base64
import SessionHandoff.Proofs.Text.Digits

/-!
# What an error says of a text that is no encoding

An error of reading base64 shows a byte of the text with its offset, or it shows the length of the
text, or nothing at all. `Base64.describes_of_decodeBytes` says that what it shows is true: a byte
that is shown stands at its offset. Where no byte is shown the error is a function of the length of
the text (`Base64.DecodeError.Describes.ofLength?_eq`), so nothing is told of its symbols.

Two errors have the same wording exactly if they are the same error
(`Base64.DecodeError.message_inj`).
-/

set_option autoImplicit false

namespace SessionHandoff.Base64

/-! ## What is shown -/

/-- The byte that an error shows, with its offset. -/
def DecodeError.shown? : DecodeError → Option (UInt8 × Nat)
  | .invalidSymbol byte offset | .invalidLastSymbol byte offset => some (byte, offset)
  | .invalidLength _ | .invalidPadding => none

/-- Whether an error is true of a text that starts at an offset. A byte that is shown stands in the
text; as the last symbol it is a symbol, and else it is none. Where no byte is shown, the last group
of the text is one symbol, or two or three that are not filled up. -/
def DecodeError.Describes (offset : Nat) (text : Bytes) : DecodeError → Prop
  | .invalidSymbol byte place =>
    symbolValue? byte = none ∧ ∃ i, place = offset + i ∧ text[i]? = some byte
  | .invalidLastSymbol byte place =>
    symbolValue? byte ≠ none ∧ ∃ i, place = offset + i ∧ text[i]? = some byte
  | .invalidLength length => text.length % 4 = 1 ∧ length = offset + text.length
  | .invalidPadding => text.length % 4 = 2 ∨ text.length % 4 = 3

/-- The error that a length alone forces, if it forces one. -/
def DecodeError.ofLength? (length : Nat) : Option DecodeError :=
  if length % 4 = 0 then none
  else if length % 4 = 1 then some (.invalidLength length)
  else some .invalidPadding

/-! ## Errors of the groups -/

theorem valueAt_eq_error {offset : Nat} {b : UInt8} {e : DecodeError}
    (h : valueAt offset b = .error e) : symbolValue? b = none ∧ e = .invalidSymbol b offset := by
  unfold valueAt at h
  cases value : symbolValue? b with
  | some n =>
    rw [value] at h
    cases h
  | none =>
    rw [value] at h
    cases h
    exact ⟨rfl, rfl⟩

/-- A row that cannot be read has a byte that may not stand where it does. -/
theorem exists_of_scanFinal_error {offset i : Nat} {group : Bytes} {e : DecodeError}
    (h : scanFinal offset i group = .error e) :
    ∃ byte j, e = .invalidSymbol byte (offset + i + j) ∧ symbolValue? byte = none ∧
      group[j]? = some byte := by
  -- The index grows with every symbol that was read, so the offset of the error stays true.
  induction group generalizing i with
  | nil => cases h
  | cons b rest ih =>
    rw [scanFinal] at h
    by_cases isPad : b = pad
    · -- a fill byte is shown where it stands too early, or where more than fill bytes follow it
      subst isPad
      have noSymbol : symbolValue? pad = none := by decide
      rw [if_pos rfl] at h
      split at h
      · cases h
        exact ⟨pad, 0, rfl, noSymbol, rfl⟩
      · split at h
        · cases h
        · cases h
          exact ⟨pad, 0, rfl, noSymbol, rfl⟩
    · rw [if_neg isPad] at h
      rcases bind_eq_error.1 h with wrong | ⟨v, -, later⟩
      · obtain ⟨noSymbol, rfl⟩ := valueAt_eq_error wrong
        exact ⟨b, 0, rfl, noSymbol, rfl⟩
      · rcases bind_eq_error.1 later with wrong | ⟨tail, -, ⟨⟩⟩
        obtain ⟨byte, j, rfl, noSymbol, stands⟩ := ih wrong
        refine ⟨byte, j + 1, ?_, noSymbol, stands⟩
        have moved : offset + (i + 1) + j = offset + i + (j + 1) := by omega
        rw [moved]

/-- An error of the last group is true of it. -/
theorem describes_of_decodeFinal {offset : Nat} {group : Bytes} {e : DecodeError}
    (short : group.length ≤ 4) (h : decodeFinal offset group = .error e) :
    e.Describes offset group := by
  unfold decodeFinal at h
  rcases bind_eq_error.1 h with wrong | ⟨⟨values, pads⟩, scanned, judged⟩
  · obtain ⟨byte, j, rfl, noSymbol, stands⟩ := exists_of_scanFinal_error wrong
    exact ⟨noSymbol, j, rfl, stands⟩
  · obtain ⟨values64, rfl, filled⟩ := row_of_scanFinal scanned
    have last (v : Nat) (inside : v ∈ values) : symbolValue? (symbolByte v) ≠ none := by
      rw [symbolValue?_symbolByte v (values64 v inside)]
      exact Option.some_ne_none v
    rw [List.length_append, List.length_map, List.length_replicate] at short
    -- One case for each number of symbols and fill bytes that is told apart.
    dsimp only at judged
    split at judged
    · cases judged
    · -- one symbol, and fill bytes stand behind at least two
      next w =>
        cases judged
        have unfilled : pads = 0 := by
          by_contra some
          have behind := filled some
          simp at behind
        subst unfilled
        exact ⟨rfl, rfl⟩
    · next w x =>
        split at judged
        · cases judged
        · cases judged
          exact ⟨last x (by simp), 1, rfl, rfl⟩
    · next w x y =>
        split at judged
        · cases judged
        · cases judged
          exact ⟨last y (by simp), 2, rfl, rfl⟩
    · cases judged
    · -- two symbols or more, which are no whole group with the fill bytes
      next noSymbol oneSymbol twoFilled threeFilled fourSymbols =>
        cases judged
        show (values.map symbolByte ++ List.replicate pads pad).length % 4 = 2 ∨
          (values.map symbolByte ++ List.replicate pads pad).length % 4 = 3
        rw [List.length_append, List.length_map, List.length_replicate]
        rcases values with _ | ⟨w, _ | ⟨x, _ | ⟨y, _ | ⟨z, more⟩⟩⟩⟩
        · exact (noSymbol rfl).elim
        · exact (oneSymbol w rfl).elim
        · have unfilled : pads ≠ 2 := fun filled => twoFilled w x rfl filled
          simp only [List.length_cons, List.length_nil] at short ⊢
          omega
        · have unfilled : pads ≠ 1 := fun filled => threeFilled w x y rfl filled
          simp only [List.length_cons, List.length_nil] at short ⊢
          omega
        · -- with four symbols there is no room for a fill byte
          simp only [List.length_cons] at short
          have whole : more = [] := List.length_eq_zero_iff.1 (by omega)
          subst whole
          exact (fourSymbols w x y z rfl (by omega)).elim

/-- What is true of the end of a text is true of the text, if whole groups stand before it. -/
theorem DecodeError.Describes.prepend {offset : Nat} {front rest : Bytes} {e : DecodeError}
    (h : e.Describes (offset + front.length) rest) (groups : front.length % 4 = 0) :
    e.Describes offset (front ++ rest) := by
  have moved {byte : UInt8} {place : Nat}
      (stands : ∃ i, place = offset + front.length + i ∧ rest[i]? = some byte) :
      ∃ i, place = offset + i ∧ (front ++ rest)[i]? = some byte := by
    obtain ⟨i, rfl, stands⟩ := stands
    refine ⟨front.length + i, by omega, ?_⟩
    rw [List.getElem?_append_right (by omega), Nat.add_sub_cancel_left]
    exact stands
  cases e with
  | invalidSymbol byte place => exact ⟨h.1, moved h.2⟩
  | invalidLastSymbol byte place => exact ⟨h.1, moved h.2⟩
  | invalidLength length =>
    obtain ⟨one, rfl⟩ := h
    constructor
    · rw [List.length_append]
      omega
    · rw [List.length_append, Nat.add_assoc]
  | invalidPadding =>
    show (front ++ rest).length % 4 = 2 ∨ (front ++ rest).length % 4 = 3
    rw [List.length_append]
    rcases h with two | three
    · exact .inl (by omega)
    · exact .inr (by omega)

/-- By induction on the groups: an error of one of them is true of the text. -/
theorem describes_of_decodeGroups {offset : Nat} {text : Bytes} {e : DecodeError}
    (h : decodeGroups offset text = .error e) : e.Describes offset text := by
  fun_induction decodeGroups offset text with
  | case1 offset a b c d rest empty =>
    have last : rest = [] := by simpa using empty
    subst last
    exact describes_of_decodeFinal (by simp) h
  | case2 offset a b c d rest more ih =>
    -- the first of the four symbols that is none, or an error behind the group
    have shown (i : Nat) {byte : UInt8} (stands : (a :: b :: c :: d :: rest)[i]? = some byte)
        (wrong : valueAt (offset + i) byte = .error e) :
        e.Describes offset (a :: b :: c :: d :: rest) := by
      obtain ⟨noSymbol, rfl⟩ := valueAt_eq_error wrong
      exact ⟨noSymbol, i, rfl, stands⟩
    rcases bind_eq_error.1 h with wrong | ⟨w, -, h⟩
    · exact shown 0 rfl wrong
    rcases bind_eq_error.1 h with wrong | ⟨x, -, h⟩
    · exact shown 1 rfl wrong
    rcases bind_eq_error.1 h with wrong | ⟨y, -, h⟩
    · exact shown 2 rfl wrong
    rcases bind_eq_error.1 h with wrong | ⟨z, -, h⟩
    · exact shown 3 rfl wrong
    rcases bind_eq_error.1 h with behind | ⟨tail, -, ⟨⟩⟩
    have whole : [a, b, c, d].length % 4 = 0 := by simp
    exact DecodeError.Describes.prepend (ih behind) whole
  | case3 offset group short =>
    refine describes_of_decodeFinal ?_ h
    rcases group with _ | ⟨a, _ | ⟨b, _ | ⟨c, _ | ⟨d, rest⟩⟩⟩⟩
    · simp
    · simp
    · simp
    · simp
    · exact (short a b c d rest rfl).elim

/-! ## Errors of whole texts -/

/-- An error of reading a text is true of it. -/
theorem describes_of_decodeBytes {text : Bytes} {e : DecodeError}
    (h : decodeBytes text = .error e) : e.Describes 0 text := by
  unfold decodeBytes at h
  split at h
  · -- the byte behind the last whole group
    next b stray =>
      cases h
      unfold strayLast? at stray
      split at stray
      · obtain ⟨last, noSymbol⟩ := Option.filter_eq_some_iff.1 stray
        rw [List.getLast?_eq_getElem?] at last
        refine ⟨?_, text.length - 1, (Nat.zero_add _).symm, last⟩
        simpa using (Bool.and_eq_true_iff.1 noSymbol).2
      · cases stray
  · exact describes_of_decodeGroups h

section Describes

variable {text text' : Bytes} {e e' : DecodeError}

/-- A byte that is shown stands in the text at its offset. -/
theorem DecodeError.Describes.stands (h : e.Describes 0 text) {byte : UInt8} {place : Nat}
    (shown : e.shown? = some (byte, place)) : text[place]? = some byte := by
  cases e with
  | invalidSymbol b o =>
    cases shown
    obtain ⟨-, i, rfl, stands⟩ := h
    rw [Nat.zero_add]
    exact stands
  | invalidLastSymbol b o =>
    cases shown
    obtain ⟨-, i, rfl, stands⟩ := h
    rw [Nat.zero_add]
    exact stands
  | invalidLength length => cases shown
  | invalidPadding => cases shown

/-- An error that shows no byte is the one that the length forces. -/
theorem DecodeError.Describes.ofLength?_eq (h : e.Describes 0 text) (silent : e.shown? = none) :
    ofLength? text.length = some e := by
  cases e with
  | invalidSymbol b o => cases silent
  | invalidLastSymbol b o => cases silent
  | invalidLength length =>
    obtain ⟨one, rfl⟩ := h
    rw [ofLength?, if_neg (by omega), if_pos one, Nat.zero_add]
  | invalidPadding =>
    have more : text.length % 4 = 2 ∨ text.length % 4 = 3 := h
    rw [ofLength?, if_neg (by omega), if_neg (by omega)]

/-- Two errors that show the same byte are the same: the byte says whether it is a symbol. -/
theorem DecodeError.Describes.eq_of_shown (h : e.Describes 0 text) (h' : e'.Describes 0 text')
    {byte : UInt8} {place : Nat} (shown : e.shown? = some (byte, place))
    (shown' : e'.shown? = some (byte, place)) : e = e' := by
  cases e with
  | invalidSymbol b o =>
    cases shown
    cases e' with
    | invalidSymbol b' o' =>
      cases shown'
      rfl
    | invalidLastSymbol b' o' =>
      cases shown'
      exact absurd h.1 h'.1
    | invalidLength length => cases shown'
    | invalidPadding => cases shown'
  | invalidLastSymbol b o =>
    cases shown
    cases e' with
    | invalidSymbol b' o' =>
      cases shown'
      exact absurd h'.1 h.1
    | invalidLastSymbol b' o' =>
      cases shown'
      rfl
    | invalidLength length => cases shown'
    | invalidPadding => cases shown'
  | invalidLength length => cases shown
  | invalidPadding => cases shown

end Describes

/-- Whole groups are all that decodes, so no error is forced. -/
theorem ofLength?_of_decodeBytes {text bytes : Bytes} (h : decodeBytes text = .ok bytes) :
    DecodeError.ofLength? text.length = none := by
  rw [decodeBytes_eq_ok_iff.1 h, DecodeError.ofLength?, if_pos (length_encodeBytes_mod bytes)]

/-! ## Wordings -/

namespace DecodeError

/-- The character of the wording that no other error has at its place. -/
def mark : DecodeError → Char
  | .invalidSymbol _ _ => 's'
  | .invalidLength _ => 'i'
  | .invalidPadding => 'p'
  | .invalidLastSymbol _ _ => 'l'

theorem mark_message (e : DecodeError) : e.message.toList[8]? = some e.mark := by
  cases e with
  | invalidPadding => rfl
  | invalidSymbol byte offset | invalidLength length | invalidLastSymbol byte offset =>
    unfold message
    simp only [String.toList_append, List.append_assoc]
    rfl

/-- A number in a wording ends before what follows it, so it can be read off. -/
theorem decimal_append_inj {m n : Nat} {s t : List Char} (hs : Text.Halts s) (ht : Text.Halts t)
    (same : Text.decimal m ++ s = Text.decimal n ++ t) : m = n ∧ s = t := by
  obtain ⟨digits, rest⟩ := Text.name_append_inj (fun c => Text.isNameChar_of_mem_decimal)
    (fun c => Text.isNameChar_of_mem_decimal) hs ht same
  exact ⟨Text.decimal_inj digits, rest⟩

/-- A byte and an offset are told by their wording. -/
theorem place_inj {label : String} {byte byte' : UInt8} {offset offset' : Nat}
    (same : label ++ Text.decimalString byte.toNat ++ ", offset " ++ Text.decimalString offset ++
        "." =
      label ++ Text.decimalString byte'.toNat ++ ", offset " ++ Text.decimalString offset' ++ ".") :
    byte = byte' ∧ offset = offset' := by
  have listed := congrArg String.toList same
  simp only [String.toList_append, Text.decimalString, String.toList_ofList,
    List.append_assoc] at listed
  have comma (rest : List Char) : Text.Halts (", offset ".toList ++ rest) :=
    .cons _ (by decide)
  have stop : Text.Halts ".".toList := .cons _ (by decide)
  obtain ⟨bytes, rest⟩ := decimal_append_inj (comma _) (comma _) (List.append_cancel_left listed)
  obtain ⟨offsets, -⟩ := decimal_append_inj stop stop (List.append_cancel_left rest)
  exact ⟨UInt8.toNat_inj.1 bytes, offsets⟩

/-- Errors with the same wording are the same. -/
theorem message_inj {e e' : DecodeError} : e.message = e'.message ↔ e = e' := by
  constructor
  · intro same
    -- One wording has one mark, so only the numbers behind it are left to compare.
    have marks : e.message.toList[8]? = e'.message.toList[8]? := by rw [same]
    rw [mark_message, mark_message] at marks
    have told := Option.some.inj marks
    cases e with
    | invalidSymbol byte offset =>
      cases e' with
      | invalidSymbol byte' offset' =>
        obtain ⟨rfl, rfl⟩ := place_inj same
        rfl
      | invalidLength _ | invalidPadding | invalidLastSymbol _ _ =>
        cases told
    | invalidLength length =>
      cases e' with
      | invalidLength length' =>
        have digits := (String.append_right_inj _).1 same
        rw [Text.decimalString_inj.1 digits]
      | invalidSymbol _ _ | invalidPadding | invalidLastSymbol _ _ =>
        cases told
    | invalidPadding =>
      cases e' with
      | invalidPadding => rfl
      | invalidSymbol _ _ | invalidLength _ | invalidLastSymbol _ _ =>
        cases told
    | invalidLastSymbol byte offset =>
      cases e' with
      | invalidLastSymbol byte' offset' =>
        obtain ⟨rfl, rfl⟩ := place_inj same
        rfl
      | invalidSymbol _ _ | invalidLength _ | invalidPadding =>
        cases told
  · intro same
    rw [same]

end DecodeError

end SessionHandoff.Base64
