import SessionHandoff.Cipher.Base64
import SessionHandoff.Proofs.Outcome
import SessionHandoff.Proofs.Text.Utf8

/-!
# Base64 has one text for every byte sequence

A text decodes exactly when, blank ends aside, it is the encoding of its bytes
(`decode_eq_ok_iff_trim`). The argument is about the bytes of the text: the last group is a row of
symbols and fill bytes (`row_of_scanFinal`), so it is the encoding of at most three bytes
(`encodeBytes_of_decodeFinal`), and the groups before it are read four symbols at a time.
-/

set_option autoImplicit false

namespace SessionHandoff.Base64

/-- The byte of a symbol. -/
def symbolByte (n : Nat) : UInt8 := (symbol n).toNat.toUInt8

/-- The bytes of the text of a byte sequence. -/
def encodeBytes (bytes : Bytes) : Bytes := Utf8.encode (encodeChars bytes)

/-! ## Symbols -/

theorem encodeChar_symbol : ∀ n < 64, Utf8.encodeChar (symbol n) = [symbolByte n] := by decide

theorem symbolByte_ne_pad : ∀ n < 64, symbolByte n ≠ pad := by decide

theorem symbolValue?_symbolByte : ∀ n < 64, symbolValue? (symbolByte n) = some n := by decide

theorem isBlank_symbol : ∀ n < 64, Text.isBlank (symbol n) = false := by decide

theorem symbol_ne_bar : ∀ n < 64, symbol n ≠ '|' := by decide

/-- A byte that has a value is the byte of the symbol of that value. -/
theorem symbolValue?_eq_some {b : UInt8} {n : Nat} (h : symbolValue? b = some n) :
    n < 64 ∧ b = symbolByte n := by
  -- There are few enough bytes to look at each of them.
  have all : ∀ k < 256, ∀ m ∈ symbolValue? (UInt8.ofNat k),
      m < 64 ∧ UInt8.ofNat k = symbolByte m := by
    decide +kernel
  have hb := all b.toNat b.toNat_lt n
  rw [UInt8.ofNat_toNat] at hb
  exact hb h

theorem valueAt_eq_ok_iff {offset : Nat} {b : UInt8} {n : Nat} :
    valueAt offset b = .ok n ↔ n < 64 ∧ b = symbolByte n := by
  unfold valueAt
  constructor
  · intro h
    cases hb : symbolValue? b with
    | none => rw [hb] at h; cases h
    | some m =>
      rw [hb] at h
      cases h
      exact symbolValue?_eq_some hb
  · rintro ⟨hn, rfl⟩
    rw [symbolValue?_symbolByte n hn]

/-! ## The groups of an encoding -/

@[simp] theorem encodeBytes_nil : encodeBytes [] = [] := rfl

theorem encodeBytes_one (a : UInt8) :
    encodeBytes [a] = [symbolByte (a.toNat / 4), symbolByte (a.toNat % 4 * 16), pad, pad] := by
  have ha := a.toNat_lt
  simp only [encodeBytes, encodeChars, Utf8.encode_cons, Utf8.encode_nil]
  rw [encodeChar_symbol _ (by omega), encodeChar_symbol _ (by omega)]
  rfl

theorem encodeBytes_two (a b : UInt8) :
    encodeBytes [a, b] = [symbolByte (a.toNat / 4), symbolByte (a.toNat % 4 * 16 + b.toNat / 16),
      symbolByte (b.toNat % 16 * 4), pad] := by
  have ha := a.toNat_lt
  have hb := b.toNat_lt
  simp only [encodeBytes, encodeChars, Utf8.encode_cons, Utf8.encode_nil]
  rw [encodeChar_symbol _ (by omega), encodeChar_symbol _ (by omega),
    encodeChar_symbol _ (by omega)]
  rfl

theorem encodeBytes_three (a b c : UInt8) (rest : Bytes) :
    encodeBytes (a :: b :: c :: rest) = symbolByte (a.toNat / 4) ::
      symbolByte (a.toNat % 4 * 16 + b.toNat / 16) ::
      symbolByte (b.toNat % 16 * 4 + c.toNat / 64) :: symbolByte (c.toNat % 64) ::
      encodeBytes rest := by
  have ha := a.toNat_lt
  have hb := b.toNat_lt
  have hc := c.toNat_lt
  simp only [encodeBytes, encodeChars, Utf8.encode_cons]
  rw [encodeChar_symbol _ (by omega), encodeChar_symbol _ (by omega),
    encodeChar_symbol _ (by omega), encodeChar_symbol _ (by omega)]
  rfl

theorem length_encodeBytes_mod (bytes : Bytes) : (encodeBytes bytes).length % 4 = 0 := by
  induction bytes using encodeChars.induct with
  | case1 a b c rest ih =>
    rw [encodeBytes_three]
    simp only [List.length_cons]
    omega
  | case2 a b => simp [encodeBytes_two]
  | case3 a => simp [encodeBytes_one]
  | case4 => rfl

theorem encodeBytes_ne_nil {bytes : Bytes} (h : bytes ≠ []) : encodeBytes bytes ≠ [] := by
  match bytes with
  | [] => exact absurd rfl h
  | [a] => simp [encodeBytes_one]
  | [a, b] => simp [encodeBytes_two]
  | a :: b :: c :: rest => simp [encodeBytes_three]

/-! ## Bytes and the values of their symbols -/

theorem toNat_toUInt8 {n : Nat} (h : n < 256) : n.toUInt8.toNat = n :=
  UInt8.toNat_ofNat_of_lt' h

theorem quadBytes_values (a b c : UInt8) :
    quadBytes (a.toNat / 4) (a.toNat % 4 * 16 + b.toNat / 16) (b.toNat % 16 * 4 + c.toNat / 64)
      (c.toNat % 64) = [a, b, c] := by
  have ha := a.toNat_lt
  have hb := b.toNat_lt
  have hc := c.toNat_lt
  have ea : a.toNat / 4 * 4 + (a.toNat % 4 * 16 + b.toNat / 16) / 16 = a.toNat := by omega
  have eb : (a.toNat % 4 * 16 + b.toNat / 16) % 16 * 16 +
      (b.toNat % 16 * 4 + c.toNat / 64) / 4 = b.toNat := by omega
  have ec : (b.toNat % 16 * 4 + c.toNat / 64) % 4 * 64 + c.toNat % 64 = c.toNat := by omega
  simp only [quadBytes, ea, eb, ec, Nat.toUInt8_eq, UInt8.ofNat_toNat]

section Values

variable {w x y z : Nat} (hw : w < 64) (hx : x < 64) (hy : y < 64) (hz : z < 64)

include hw hx

theorem encodeBytes_of_one_value (h : x % 16 = 0) :
    encodeBytes [(w * 4 + x / 16).toUInt8] = [symbolByte w, symbolByte x, pad, pad] := by
  rw [encodeBytes_one, toNat_toUInt8 (by omega)]
  have e1 : (w * 4 + x / 16) / 4 = w := by omega
  have e2 : (w * 4 + x / 16) % 4 * 16 = x := by omega
  rw [e1, e2]

include hy

theorem encodeBytes_of_two_values (h : y % 4 = 0) :
    encodeBytes [(w * 4 + x / 16).toUInt8, (x % 16 * 16 + y / 4).toUInt8] =
      [symbolByte w, symbolByte x, symbolByte y, pad] := by
  rw [encodeBytes_two, toNat_toUInt8 (by omega), toNat_toUInt8 (by omega)]
  have e1 : (w * 4 + x / 16) / 4 = w := by omega
  have e2 : (w * 4 + x / 16) % 4 * 16 + (x % 16 * 16 + y / 4) / 16 = x := by omega
  have e3 : (x % 16 * 16 + y / 4) % 16 * 4 = y := by omega
  rw [e1, e2, e3]

include hz

theorem encodeBytes_quadBytes (rest : Bytes) :
    encodeBytes (quadBytes w x y z ++ rest) =
      symbolByte w :: symbolByte x :: symbolByte y :: symbolByte z :: encodeBytes rest := by
  simp only [quadBytes, List.cons_append, List.nil_append]
  rw [encodeBytes_three, toNat_toUInt8 (by omega), toNat_toUInt8 (by omega),
    toNat_toUInt8 (by omega)]
  have e1 : (w * 4 + x / 16) / 4 = w := by omega
  have e2 : (w * 4 + x / 16) % 4 * 16 + (x % 16 * 16 + y / 4) / 16 = x := by omega
  have e3 : (x % 16 * 16 + y / 4) % 16 * 4 + (y % 4 * 64 + z) / 64 = y := by omega
  have e4 : (y % 4 * 64 + z) % 64 = z := by omega
  rw [e1, e2, e3, e4]

end Values

/-! ## The last group -/

theorem scanFinal_symbol (offset i : Nat) {v : Nat} (hv : v < 64) (rest : Bytes) :
    scanFinal offset i (symbolByte v :: rest) =
      (scanFinal offset (i + 1) rest).map fun tail => (v :: tail.1, tail.2) := by
  rw [scanFinal, if_neg (symbolByte_ne_pad v hv), valueAt_eq_ok_iff.2 ⟨hv, rfl⟩]
  cases scanFinal offset (i + 1) rest with
  | error e => rfl
  | ok tail => rfl

theorem scanFinal_replicate_pad (offset : Nat) {i pads : Nat} (h : pads ≠ 0 → 2 ≤ i) :
    scanFinal offset i (List.replicate pads pad) = .ok ([], pads) := by
  cases pads with
  | zero => rfl
  | succ k =>
    have hi : ¬ i < 2 := Nat.not_lt.2 (h (by omega))
    rw [List.replicate_succ, scanFinal, if_pos rfl, if_neg hi, if_pos (by simp),
      List.length_replicate]

/-- A row of symbols with fill bytes after at least two of them is read as its values. -/
theorem scanFinal_row (offset i pads : Nat) (values : List Nat)
    (hvalues : ∀ v ∈ values, v < 64) (hpads : pads ≠ 0 → 2 ≤ i + values.length) :
    scanFinal offset i (values.map symbolByte ++ List.replicate pads pad) = .ok (values, pads) := by
  -- The index counts the symbols that were read, and only a fill byte asks for it.
  induction values generalizing i with
  | nil => exact scanFinal_replicate_pad offset hpads
  | cons v values ih =>
    have htail := ih (i + 1) (fun u hu => hvalues u (List.mem_cons_of_mem _ hu)) (by
      intro hp
      have := hpads hp
      rw [List.length_cons] at this
      omega)
    rw [List.map_cons, List.cons_append, scanFinal_symbol offset i (hvalues v List.mem_cons_self),
      htail]
    rfl

theorem row_of_scanFinal_pad {offset i : Nat} {rest : Bytes} {values : List Nat} {pads : Nat}
    (h : scanFinal offset i (pad :: rest) = .ok (values, pads)) :
    values = [] ∧ pad :: rest = List.replicate pads pad ∧ 2 ≤ i := by
  rw [scanFinal, if_pos rfl] at h
  split at h
  · cases h
  · next hi =>
    split at h
    · next hrest =>
      cases h
      have hpads : rest = List.replicate rest.length pad :=
        List.eq_replicate_iff.2 ⟨rfl, by simpa using hrest⟩
      exact ⟨rfl, by rw [List.replicate_succ, ← hpads], Nat.not_lt.1 hi⟩
    · cases h

/-- Whatever is read as values and fill bytes is their row. -/
theorem row_of_scanFinal {offset i : Nat} {group : Bytes} {values : List Nat} {pads : Nat}
    (h : scanFinal offset i group = .ok (values, pads)) :
    (∀ v ∈ values, v < 64) ∧ group = values.map symbolByte ++ List.replicate pads pad ∧
      (pads ≠ 0 → 2 ≤ i + values.length) := by
  induction group generalizing i values with
  | nil =>
    cases h
    simp
  | cons b rest ih =>
    -- A fill byte ends the row, and every other byte has to be a symbol.
    by_cases hb : b = pad
    · subst hb
      obtain ⟨rfl, hgroup, hi⟩ := row_of_scanFinal_pad h
      exact ⟨by simp, hgroup, fun _ => hi⟩
    · rw [scanFinal, if_neg hb] at h
      obtain ⟨v, hv, h⟩ := bind_eq_ok.1 h
      obtain ⟨tail, htail, h⟩ := bind_eq_ok.1 h
      cases h
      obtain ⟨hv64, rfl⟩ := valueAt_eq_ok_iff.1 hv
      obtain ⟨hlt, hrest, hpads⟩ := ih htail
      refine ⟨?_, by rw [List.map_cons, List.cons_append, ← hrest], fun hp => ?_⟩
      · rintro u (_ | ⟨_, hu⟩)
        · exact hv64
        · exact hlt u hu
      · have := hpads hp
        rw [List.length_cons]
        omega

/-- The last group is the encoding of the bytes that are read from it. -/
theorem encodeBytes_of_decodeFinal {offset : Nat} {group bytes : Bytes}
    (h : decodeFinal offset group = .ok bytes) : group = encodeBytes bytes := by
  unfold decodeFinal at h
  obtain ⟨⟨values, pads⟩, hscan, hrow⟩ := bind_eq_ok.1 h
  obtain ⟨hlt, rfl, hpads⟩ := row_of_scanFinal hscan
  -- One case for each number of symbols and fill bytes that the reader accepts or refuses.
  simp only at hrow
  split at hrow
  · cases hrow
    cases pads with
    | zero => rfl
    | succ k => exact absurd (hpads (by omega)) (by simp)
  · cases hrow
  · next w x =>
    simp only [List.mem_cons, List.not_mem_nil, or_false, forall_eq_or_imp, forall_eq] at hlt
    split at hrow
    · next hx =>
      cases hrow
      exact (encodeBytes_of_one_value hlt.1 hlt.2 hx).symm
    · cases hrow
  · next w x y =>
    simp only [List.mem_cons, List.not_mem_nil, or_false, forall_eq_or_imp, forall_eq] at hlt
    split at hrow
    · next hy =>
      cases hrow
      exact (encodeBytes_of_two_values hlt.1 hlt.2.1 hlt.2.2 hy).symm
    · cases hrow
  · next w x y z =>
    simp only [List.mem_cons, List.not_mem_nil, or_false, forall_eq_or_imp, forall_eq] at hlt
    cases hrow
    exact (encodeBytes_quadBytes hlt.1 hlt.2.1 hlt.2.2.1 hlt.2.2.2 []).symm
  · cases hrow

theorem decodeFinal_encodeBytes_one (offset : Nat) (a : UInt8) :
    decodeFinal offset (encodeBytes [a]) = .ok [a] := by
  have ha := a.toNat_lt
  have hscan := scanFinal_row offset 0 2 [a.toNat / 4, a.toNat % 4 * 16] (by simp; omega) (by simp)
  have ea : a.toNat / 4 * 4 + a.toNat % 4 * 16 / 16 = a.toNat := by omega
  have hx : a.toNat % 4 * 16 % 16 = 0 := by omega
  rw [encodeBytes_one]
  unfold decodeFinal
  simp only [List.map_cons, List.map_nil, List.cons_append, List.nil_append,
    List.replicate] at hscan
  rw [hscan]
  simp only [bind, Except.bind, hx, if_true, ea, Nat.toUInt8_eq, UInt8.ofNat_toNat]
  rfl

theorem decodeFinal_encodeBytes_two (offset : Nat) (a b : UInt8) :
    decodeFinal offset (encodeBytes [a, b]) = .ok [a, b] := by
  have ha := a.toNat_lt
  have hb := b.toNat_lt
  have hscan := scanFinal_row offset 0 1
    [a.toNat / 4, a.toNat % 4 * 16 + b.toNat / 16, b.toNat % 16 * 4] (by simp; omega) (by simp)
  have ea : a.toNat / 4 * 4 + (a.toNat % 4 * 16 + b.toNat / 16) / 16 = a.toNat := by omega
  have eb : (a.toNat % 4 * 16 + b.toNat / 16) % 16 * 16 + b.toNat % 16 * 4 / 4 = b.toNat := by
    omega
  have hy : b.toNat % 16 * 4 % 4 = 0 := by omega
  rw [encodeBytes_two]
  unfold decodeFinal
  simp only [List.map_cons, List.map_nil, List.cons_append, List.nil_append,
    List.replicate] at hscan
  rw [hscan]
  simp only [bind, Except.bind, hy, if_true, ea, eb, Nat.toUInt8_eq, UInt8.ofNat_toNat]
  rfl

theorem decodeFinal_encodeBytes_three (offset : Nat) (a b c : UInt8) :
    decodeFinal offset (encodeBytes [a, b, c]) = .ok [a, b, c] := by
  have ha := a.toNat_lt
  have hb := b.toNat_lt
  have hc := c.toNat_lt
  have hscan := scanFinal_row offset 0 0
    [a.toNat / 4, a.toNat % 4 * 16 + b.toNat / 16, b.toNat % 16 * 4 + c.toNat / 64, c.toNat % 64]
    (by simp; omega) (by simp)
  rw [encodeBytes_three, encodeBytes_nil]
  unfold decodeFinal
  simp only [List.map_cons, List.map_nil, List.cons_append, List.nil_append,
    List.replicate] at hscan
  rw [hscan]
  simp only [bind, Except.bind, quadBytes_values]
  rfl

/-! ## Whole texts -/

theorem decodeGroups_quad (offset : Nat) {w x y z : Nat} (hw : w < 64) (hx : x < 64) (hy : y < 64)
    (hz : z < 64) {rest : Bytes} (hrest : rest ≠ []) :
    decodeGroups offset
        (symbolByte w :: symbolByte x :: symbolByte y :: symbolByte z :: rest) =
      (decodeGroups (offset + 4) rest).map (quadBytes w x y z ++ ·) := by
  have hempty : ¬ rest.isEmpty = true := by simpa using hrest
  rw [decodeGroups, if_neg hempty, valueAt_eq_ok_iff.2 ⟨hw, rfl⟩, valueAt_eq_ok_iff.2 ⟨hx, rfl⟩,
    valueAt_eq_ok_iff.2 ⟨hy, rfl⟩, valueAt_eq_ok_iff.2 ⟨hz, rfl⟩]
  cases decodeGroups (offset + 4) rest with
  | error e => rfl
  | ok tail => rfl

theorem decodeGroups_encodeBytes (offset : Nat) (bytes : Bytes) :
    decodeGroups offset (encodeBytes bytes) = .ok bytes := by
  induction bytes using encodeChars.induct generalizing offset with
  | case1 a b c rest ih =>
    -- Three bytes at the end make the last group, which has a reader of its own.
    by_cases hrest : rest = []
    · subst hrest
      have hfinal := decodeFinal_encodeBytes_three offset a b c
      rw [encodeBytes_three] at hfinal ⊢
      exact hfinal
    · have ha := a.toNat_lt
      have hb := b.toNat_lt
      have hc := c.toNat_lt
      rw [encodeBytes_three, decodeGroups_quad offset (by omega) (by omega) (by omega) (by omega)
        (encodeBytes_ne_nil hrest), ih, quadBytes_values]
      rfl
  | case2 a b =>
    have hfinal := decodeFinal_encodeBytes_two offset a b
    rw [encodeBytes_two] at hfinal ⊢
    exact hfinal
  | case3 a =>
    have hfinal := decodeFinal_encodeBytes_one offset a
    rw [encodeBytes_one] at hfinal ⊢
    exact hfinal
  | case4 => rfl

theorem encodeBytes_of_decodeGroups {offset : Nat} {text bytes : Bytes}
    (h : decodeGroups offset text = .ok bytes) : text = encodeBytes bytes := by
  fun_induction decodeGroups offset text generalizing bytes with
  | case1 offset a b c d rest hrest =>
    obtain rfl : rest = [] := by simpa using hrest
    exact encodeBytes_of_decodeFinal h
  | case2 offset a b c d rest hrest ih =>
    obtain ⟨w, hw, h⟩ := bind_eq_ok.1 h
    obtain ⟨x, hx, h⟩ := bind_eq_ok.1 h
    obtain ⟨y, hy, h⟩ := bind_eq_ok.1 h
    obtain ⟨z, hz, h⟩ := bind_eq_ok.1 h
    obtain ⟨tail, htail, h⟩ := bind_eq_ok.1 h
    cases h
    obtain ⟨hw64, rfl⟩ := valueAt_eq_ok_iff.1 hw
    obtain ⟨hx64, rfl⟩ := valueAt_eq_ok_iff.1 hx
    obtain ⟨hy64, rfl⟩ := valueAt_eq_ok_iff.1 hy
    obtain ⟨hz64, rfl⟩ := valueAt_eq_ok_iff.1 hz
    rw [encodeBytes_quadBytes hw64 hx64 hy64 hz64, ← ih htail]
  | case3 offset group hgroup => exact encodeBytes_of_decodeFinal h

theorem strayLast?_encodeBytes (bytes : Bytes) : strayLast? (encodeBytes bytes) = none := by
  have hmod := length_encodeBytes_mod bytes
  rw [strayLast?, if_neg (by omega)]

/-- A text of bytes decodes exactly when it is an encoding, and to the bytes that it encodes. -/
theorem decodeBytes_eq_ok_iff {text bytes : Bytes} :
    decodeBytes text = .ok bytes ↔ text = encodeBytes bytes := by
  constructor
  · intro h
    unfold decodeBytes at h
    split at h
    · cases h
    · exact encodeBytes_of_decodeGroups h
  · rintro rfl
    rw [decodeBytes, strayLast?_encodeBytes]
    exact decodeGroups_encodeBytes 0 bytes

/-- A text decodes exactly when, blank ends aside, it is the encoding of its bytes. -/
theorem decode_eq_ok_iff_trim {text : String} {bytes : Bytes} :
    decode text = .ok bytes ↔ Text.trimString text = encode bytes := by
  unfold decode
  rw [decodeBytes_eq_ok_iff, encodeBytes, Utf8.encode_inj, Text.trimString, encode,
    String.ofList_inj]

/-! ## The characters of an encoding -/

/-- Every character of an encoding is a symbol or the fill character. -/
theorem mem_encodeChars {bytes : Bytes} {c : Char} (h : c ∈ encodeChars bytes) :
    (∃ n < 64, c = symbol n) ∨ c = '=' := by
  induction bytes using encodeChars.induct with
  | case1 a b d rest ih =>
    have ha := a.toNat_lt
    have hb := b.toNat_lt
    simp only [encodeChars, List.mem_cons] at h
    rcases h with rfl | rfl | rfl | rfl | h
    · exact Or.inl ⟨_, by omega, rfl⟩
    · exact Or.inl ⟨_, by omega, rfl⟩
    · exact Or.inl ⟨_, by have := d.toNat_lt; omega, rfl⟩
    · exact Or.inl ⟨_, by omega, rfl⟩
    · exact ih h
  | case2 a b =>
    have ha := a.toNat_lt
    have hb := b.toNat_lt
    simp only [encodeChars, List.mem_cons, List.not_mem_nil, or_false] at h
    rcases h with rfl | rfl | rfl | rfl
    · exact Or.inl ⟨_, by omega, rfl⟩
    · exact Or.inl ⟨_, by omega, rfl⟩
    · exact Or.inl ⟨_, by omega, rfl⟩
    · exact Or.inr rfl
  | case3 a =>
    have ha := a.toNat_lt
    simp only [encodeChars, List.mem_cons, List.not_mem_nil, or_false] at h
    rcases h with rfl | rfl | rfl | rfl
    · exact Or.inl ⟨_, by omega, rfl⟩
    · exact Or.inl ⟨_, by omega, rfl⟩
    · exact Or.inr rfl
    · exact Or.inr rfl
  | case4 => simp [encodeChars] at h

theorem isBlank_of_mem_encodeChars {bytes : Bytes} {c : Char} (h : c ∈ encodeChars bytes) :
    Text.isBlank c = false := by
  rcases mem_encodeChars h with ⟨n, hn, rfl⟩ | rfl
  · exact isBlank_symbol n hn
  · decide

theorem bar_not_mem_encodeChars (bytes : Bytes) : '|' ∉ encodeChars bytes := by
  intro h
  rcases mem_encodeChars h with ⟨n, hn, hc⟩ | hc
  · exact symbol_ne_bar n hn hc.symm
  · exact absurd hc (by decide)

@[simp] theorem trimString_encode (bytes : Bytes) :
    Text.trimString (encode bytes) = encode bytes := by
  rw [Text.trimString, encode, String.toList_ofList,
    Text.trim_eq_self fun c hc => isBlank_of_mem_encodeChars hc]

@[simp] theorem decode_encode_self (bytes : Bytes) : decode (encode bytes) = .ok bytes :=
  decode_eq_ok_iff_trim.2 (trimString_encode bytes)

/-- Byte sequences with the same text are the same. -/
theorem encode_inj {a b : Bytes} : encode a = encode b ↔ a = b := by
  constructor
  · intro h
    -- Each text decodes to its own bytes.
    have hab : decode (encode a) = decode (encode b) := congrArg decode h
    simpa using hab
  · rintro rfl
    rfl

end SessionHandoff.Base64
