import SessionHandoff.Text.Utf8

/-!
# Reading back an encoded text

The reader takes the bytes of one character back to that character and goes on with what follows
(`decodeFrom_encodeChar`), so it takes the bytes of a text back to the text (`decode?_encode`), and
two texts with the same bytes are the same text (`encode_inj`).

It reads no other bytes: whatever was read as a text are the bytes of that text
(`decode?_eq_some_iff`). So bytes that break off inside of a character are no text.
-/

set_option autoImplicit false

namespace SessionHandoff.Utf8

/-! ## First bytes -/

theorem lead_one {n : Nat} (h : n < 0x80) : lead n.toUInt8 = .whole (Char.ofNat n) := by
  have hn : n.toUInt8.toNat = n := UInt8.toNat_ofNat_of_lt' (Nat.lt_trans h (by decide))
  simp only [lead, hn, if_pos h]

theorem lead_two : ∀ k < 32, 2 ≤ k → lead (0xC0 + k).toUInt8 = .opens ⟨k, 0, 0x80, 0xBF⟩ := by
  decide

theorem lead_three : ∀ k < 16, lead (0xE0 + k).toUInt8 =
    .opens ⟨k, 1, if k = 0 then 0xA0 else 0x80, if k = 13 then 0x9F else 0xBF⟩ := by
  decide

theorem lead_four : ∀ k < 5, lead (0xF0 + k).toUInt8 =
    .opens ⟨k, 2, if k = 0 then 0x90 else 0x80, if k = 4 then 0x8F else 0xBF⟩ := by
  decide

theorem decodeFrom_whole {b : UInt8} {c : Char} (h : lead b = .whole c) (rest : Bytes) :
    decodeFrom none (b :: rest) = (decodeFrom none rest).map (c :: ·) := by
  rw [decodeFrom, h]

theorem decodeFrom_opens {b : UInt8} {p : Pending} (h : lead b = .opens p) (rest : Bytes) :
    decodeFrom none (b :: rest) = decodeFrom (some p) rest := by
  rw [decodeFrom, h]

/-! ## Later bytes -/

theorem toNat_later {m : Nat} (h : m < 64) : (0x80 + m).toUInt8.toNat = 0x80 + m :=
  UInt8.toNat_ofNat_of_lt' (Nat.lt_of_lt_of_le (Nat.add_lt_add_left h 0x80) (by decide))

theorem extended_later {p : Pending} {b : UInt8} {m : Nat} (hb : b.toNat = 0x80 + m) :
    p.extended b = p.value * 64 + m := by
  unfold Pending.extended
  omega

section Later

variable {value least greatest m : Nat} {b : UInt8} (hb : b.toNat = 0x80 + m)
  (hl : least ≤ 0x80 + m) (hg : 0x80 + m ≤ greatest)

include hb hl hg

theorem admits_later (owed : Nat) :
    (⟨value, owed, least, greatest⟩ : Pending).admits b = true := by
  simp only [Pending.admits, hb, hl, hg, decide_true, Bool.and_self]

/-- The last byte of a character ends it. -/
theorem decodeFrom_last (rest : Bytes) :
    decodeFrom (some ⟨value, 0, least, greatest⟩) (b :: rest) =
      (decodeFrom none rest).map (Char.ofNat (value * 64 + m) :: ·) := by
  rw [decodeFrom, if_pos (admits_later hb hl hg 0), extended_later hb]

/-- A byte before the last one leaves the character pending. -/
theorem decodeFrom_inner (owed : Nat) (rest : Bytes) :
    decodeFrom (some ⟨value, owed + 1, least, greatest⟩) (b :: rest) =
      decodeFrom (some ⟨value * 64 + m, owed, 0x80, 0xBF⟩) rest := by
  rw [decodeFrom, if_pos (admits_later hb hl hg (owed + 1))]
  show decodeFrom (some ⟨_, owed, 0x80, 0xBF⟩) rest = _
  rw [extended_later hb]

end Later

/-! ## Characters and texts -/

/-- The values of characters: everything below U+110000 but the surrogates. -/
theorem toNat_valid (c : Char) : c.toNat < 0xD800 ∨ 0xDFFF < c.toNat ∧ c.toNat < 0x110000 :=
  c.valid

theorem decodeFrom_encodeChar (c : Char) (rest : Bytes) :
    decodeFrom none (encodeChar c ++ rest) = (decodeFrom none rest).map (c :: ·) := by
  have hv := toNat_valid c
  have hc : Char.ofNat c.toNat = c := Char.ofNat_toNat c
  unfold encodeChar
  generalize c.toNat = n at hv hc
  dsimp only
  -- The four lengths of a character; in each the digits to the base 64 sum up to its value.
  split
  · next h1 => rw [List.singleton_append, decodeFrom_whole (lead_one h1), hc]
  · split
    · next h1 h2 =>
      have hsum : n / 64 * 64 + n % 64 = n := by omega
      simp only [List.cons_append, List.nil_append]
      rw [decodeFrom_opens (lead_two _ (by omega) (by omega)),
        decodeFrom_last (toNat_later (by omega)) (by omega) (by omega), hsum, hc]
    · split
      · next h1 h2 h3 =>
        have hsum : (n / 4096 * 64 + n / 64 % 64) * 64 + n % 64 = n := by omega
        simp only [List.cons_append, List.nil_append]
        rw [decodeFrom_opens (lead_three _ (by omega)),
          decodeFrom_inner (toNat_later (by omega)) (by split <;> omega) (by split <;> omega),
          decodeFrom_last (toNat_later (by omega)) (by omega) (by omega), hsum, hc]
      · next h1 h2 h3 =>
        have hsum :
            ((n / 262144 * 64 + n / 4096 % 64) * 64 + n / 64 % 64) * 64 + n % 64 = n := by
          omega
        simp only [List.cons_append, List.nil_append]
        rw [decodeFrom_opens (lead_four _ (by omega)),
          decodeFrom_inner (toNat_later (by omega)) (by split <;> omega) (by split <;> omega),
          decodeFrom_inner (toNat_later (by omega)) (by omega) (by omega),
          decodeFrom_last (toNat_later (by omega)) (by omega) (by omega), hsum, hc]

/-- The bytes of a text read back as the text. -/
@[simp] theorem decode?_encode (text : List Char) : decode? (encode text) = some text := by
  unfold decode?
  -- Between two characters nothing is pending, so each character is taken back by itself.
  induction text with
  | nil => rfl
  | cons c text ih => rw [encode_cons, decodeFrom_encodeChar, ih, Option.map_some]

/-- Texts with the same bytes are the same. -/
theorem encode_inj {a b : List Char} : encode a = encode b ↔ a = b := by
  constructor
  · intro h
    -- The bytes determine what they decode to.
    have hab : decode? (encode a) = decode? (encode b) := congrArg decode? h
    simpa using hab
  · rintro rfl
    rfl

@[simp] theorem toString?_ofString (s : String) : toString? (ofString s) = some s := by
  simp [toString?, ofString]

/-! ## Bytes that were read -/

theorem toNat_ofNat {n : Nat} (h : n.isValidChar) : (Char.ofNat n).toNat = n := by
  rw [Char.ofNat, dif_pos h]
  rfl

theorem lead_eq_whole {b : UInt8} {c : Char} (h : lead b = .whole c) :
    b.toNat < 0x80 ∧ c = Char.ofNat b.toNat := by
  unfold lead at h
  dsimp only at h
  split at h
  · next hn =>
    cases h
    exact ⟨hn, rfl⟩
  · (repeat' split at h) <;> cases h

/-- A byte that opens a character stands in one of the three rows of first bytes, those of
characters of two, three and four bytes. -/
theorem lead_eq_opens {b : UInt8} {p : Pending} (h : lead b = .opens p) :
    (∃ k, 2 ≤ k ∧ k < 32 ∧ b.toNat = 0xC0 + k ∧ p = ⟨k, 0, 0x80, 0xBF⟩) ∨
    (∃ k, k < 16 ∧ b.toNat = 0xE0 + k ∧
      p = ⟨k, 1, if k = 0 then 0xA0 else 0x80, if k = 13 then 0x9F else 0xBF⟩) ∨
    (∃ k, k < 5 ∧ b.toNat = 0xF0 + k ∧
      p = ⟨k, 2, if k = 0 then 0x90 else 0x80, if k = 4 then 0x8F else 0xBF⟩) := by
  have hb : b = b.toNat.toUInt8 := UInt8.ofNat_toNat.symm
  by_cases h1 : b.toNat < 0x80
  · simp only [lead, if_pos h1] at h
    cases h
  by_cases h2 : b.toNat < 0xC2
  · simp only [lead, if_neg h1, if_pos h2] at h
    cases h
  by_cases h3 : b.toNat < 0xE0
  · obtain ⟨k, hk⟩ : ∃ k, b.toNat = 0xC0 + k := ⟨b.toNat - 0xC0, by omega⟩
    rw [hb, hk, lead_two k (by omega) (by omega)] at h
    cases h
    exact Or.inl ⟨k, by omega, by omega, hk, rfl⟩
  by_cases h4 : b.toNat < 0xF0
  · obtain ⟨k, hk⟩ : ∃ k, b.toNat = 0xE0 + k := ⟨b.toNat - 0xE0, by omega⟩
    rw [hb, hk, lead_three k (by omega)] at h
    cases h
    exact Or.inr (Or.inl ⟨k, by omega, hk, rfl⟩)
  by_cases h5 : b.toNat < 0xF5
  · obtain ⟨k, hk⟩ : ∃ k, b.toNat = 0xF0 + k := ⟨b.toNat - 0xF0, by omega⟩
    rw [hb, hk, lead_four k (by omega)] at h
    cases h
    exact Or.inr (Or.inr ⟨k, by omega, hk, rfl⟩)
  · have hstray : lead b = .stray := by
      simp only [lead]
      repeat' rw [if_neg (by omega)]
    rw [hstray] at h
    cases h

section Pending

variable {value least greatest : Nat} {bytes : Bytes} {text : List Char}

/-- Where a character is pending, a byte in the range comes next. -/
theorem exists_of_decodeFrom_some {owed : Nat} (hleast : 0x80 ≤ least)
    (h : decodeFrom (some ⟨value, owed, least, greatest⟩) bytes = some text) :
    ∃ m rest, bytes = (0x80 + m).toUInt8 :: rest ∧ least ≤ 0x80 + m ∧ 0x80 + m ≤ greatest := by
  cases bytes with
  | nil =>
    rw [decodeFrom] at h
    cases h
  | cons b rest =>
    cases hadmits : (⟨value, owed, least, greatest⟩ : Pending).admits b with
    | false =>
      rw [decodeFrom, hadmits] at h
      cases h
    | true =>
      simp only [Pending.admits, Bool.and_eq_true, decide_eq_true_eq] at hadmits
      have hm : 0x80 + (b.toNat - 0x80) = b.toNat := by omega
      refine ⟨b.toNat - 0x80, rest, ?_, by omega, by omega⟩
      rw [hm]
      exact congrArg (· :: rest) UInt8.ofNat_toNat.symm

/-- Where the last byte of a character is missing it comes next and ends the character. -/
theorem exists_of_decodeFrom_last (hleast : 0x80 ≤ least) (hgreatest : greatest ≤ 0xBF)
    (h : decodeFrom (some ⟨value, 0, least, greatest⟩) bytes = some text) :
    ∃ m rest t, bytes = (0x80 + m).toUInt8 :: rest ∧ least ≤ 0x80 + m ∧ 0x80 + m ≤ greatest ∧
      text = Char.ofNat (value * 64 + m) :: t ∧ decodeFrom none rest = some t := by
  obtain ⟨m, rest, rfl, hl, hg⟩ := exists_of_decodeFrom_some hleast h
  rw [decodeFrom_last (toNat_later (by omega)) hl hg] at h
  obtain ⟨t, ht, rfl⟩ := Option.map_eq_some_iff.1 h
  exact ⟨m, rest, t, rfl, hl, hg, rfl, ht⟩

/-- Where more than one byte is missing, the next one leaves the character pending. -/
theorem exists_of_decodeFrom_inner {owed : Nat} (hleast : 0x80 ≤ least)
    (hgreatest : greatest ≤ 0xBF)
    (h : decodeFrom (some ⟨value, owed + 1, least, greatest⟩) bytes = some text) :
    ∃ m rest, bytes = (0x80 + m).toUInt8 :: rest ∧ least ≤ 0x80 + m ∧ 0x80 + m ≤ greatest ∧
      decodeFrom (some ⟨value * 64 + m, owed, 0x80, 0xBF⟩) rest = some text := by
  obtain ⟨m, rest, rfl, hl, hg⟩ := exists_of_decodeFrom_some hleast h
  rw [decodeFrom_inner (toNat_later (by omega)) hl hg] at h
  exact ⟨m, rest, rfl, hl, hg, h⟩

end Pending

theorem encodeChar_one {n : Nat} (h : n < 0x80) : encodeChar (Char.ofNat n) = [n.toUInt8] := by
  have hvalid : n.isValidChar := Or.inl (by omega)
  simp only [encodeChar, toNat_ofNat hvalid, if_pos h]

theorem encodeChar_two {k m : Nat} (h2 : 2 ≤ k) (hk : k < 32) (hm : m < 64) :
    encodeChar (Char.ofNat (k * 64 + m)) = [(0xC0 + k).toUInt8, (0x80 + m).toUInt8] := by
  have hvalid : (k * 64 + m).isValidChar := Or.inl (by omega)
  have hfirst : (k * 64 + m) / 64 = k := by omega
  have hsecond : (k * 64 + m) % 64 = m := by omega
  simp only [encodeChar, toNat_ofNat hvalid, hfirst, hsecond]
  rw [if_neg (by omega), if_pos (by omega)]

theorem encodeChar_three {k m l : Nat} (hk : k < 16) (hm : m < 64) (hl : l < 64)
    (hlow : k = 0 → 32 ≤ m) (hhigh : k = 13 → m < 32) :
    encodeChar (Char.ofNat ((k * 64 + m) * 64 + l)) =
      [(0xE0 + k).toUInt8, (0x80 + m).toUInt8, (0x80 + l).toUInt8] := by
  have hvalid : ((k * 64 + m) * 64 + l).isValidChar := by
    show _ < 0xD800 ∨ 0xDFFF < _ ∧ _ < 0x110000
    by_cases h : k < 13
    · exact Or.inl (by omega)
    · by_cases h : k = 13
      · have := hhigh h
        exact Or.inl (by omega)
      · exact Or.inr ⟨by omega, by omega⟩
  have hfirst : ((k * 64 + m) * 64 + l) / 4096 = k := by omega
  have hsecond : ((k * 64 + m) * 64 + l) / 64 % 64 = m := by omega
  have hthird : ((k * 64 + m) * 64 + l) % 64 = l := by omega
  simp only [encodeChar, toNat_ofNat hvalid, hfirst, hsecond, hthird]
  rw [if_neg (by omega), if_neg (by omega), if_pos (by omega)]

theorem encodeChar_four {k m l j : Nat} (hk : k < 5) (hm : m < 64) (hl : l < 64) (hj : j < 64)
    (hlow : k = 0 → 16 ≤ m) (hhigh : k = 4 → m < 16) :
    encodeChar (Char.ofNat (((k * 64 + m) * 64 + l) * 64 + j)) =
      [(0xF0 + k).toUInt8, (0x80 + m).toUInt8, (0x80 + l).toUInt8, (0x80 + j).toUInt8] := by
  have hvalid : (((k * 64 + m) * 64 + l) * 64 + j).isValidChar := Or.inr ⟨by omega, by omega⟩
  have hfirst : (((k * 64 + m) * 64 + l) * 64 + j) / 262144 = k := by omega
  have hsecond : (((k * 64 + m) * 64 + l) * 64 + j) / 4096 % 64 = m := by omega
  have hthird : (((k * 64 + m) * 64 + l) * 64 + j) / 64 % 64 = l := by omega
  have hfourth : (((k * 64 + m) * 64 + l) * 64 + j) % 64 = j := by omega
  simp only [encodeChar, toNat_ofNat hvalid, hfirst, hsecond, hthird, hfourth]
  rw [if_neg (by omega), if_neg (by omega), if_neg (by omega)]

/-- The first character that is read was encoded in front of the others. -/
theorem exists_of_decodeFrom_none {bytes : Bytes} {text : List Char}
    (h : decodeFrom none bytes = some text) :
    bytes = [] ∧ text = [] ∨
      ∃ c rest t, bytes = encodeChar c ++ rest ∧ text = c :: t ∧ decodeFrom none rest = some t := by
  cases bytes with
  | nil =>
    cases h
    exact Or.inl ⟨rfl, rfl⟩
  | cons b bytes =>
    have hb : b = b.toNat.toUInt8 := UInt8.ofNat_toNat.symm
    refine Or.inr ?_
    cases hlead : lead b with
    | stray =>
      rw [decodeFrom, hlead] at h
      cases h
    | whole c =>
      obtain ⟨hlt, rfl⟩ := lead_eq_whole hlead
      rw [decodeFrom_whole hlead] at h
      obtain ⟨t, ht, rfl⟩ := Option.map_eq_some_iff.1 h
      exact ⟨_, bytes, t, by rw [encodeChar_one hlt, ← hb]; rfl, rfl, ht⟩
    | opens p =>
      rw [decodeFrom_opens hlead] at h
      rcases lead_eq_opens hlead with ⟨k, h2, hk, hbk, rfl⟩ | ⟨k, hk, hbk, rfl⟩ | ⟨k, hk, hbk, rfl⟩
      · obtain ⟨m, rest, t, rfl, hl, hg, rfl, ht⟩ :=
          exists_of_decodeFrom_last (by omega) (by omega) h
        refine ⟨_, rest, t, ?_, rfl, ht⟩
        rw [encodeChar_two h2 hk (by omega), hb, hbk]
        rfl
      · obtain ⟨m, rest, rfl, hl, hg, h⟩ :=
          exists_of_decodeFrom_inner (by split <;> omega) (by split <;> omega) h
        obtain ⟨l, rest, t, rfl, hl', hg', rfl, ht⟩ :=
          exists_of_decodeFrom_last (by omega) (by omega) h
        refine ⟨_, rest, t, ?_, rfl, ht⟩
        rw [encodeChar_three hk (by split at hg <;> omega) (by omega)
          (fun h0 => by rw [if_pos h0] at hl; omega) (fun h13 => by rw [if_pos h13] at hg; omega), hb,
          hbk]
        rfl
      · obtain ⟨m, rest, rfl, hl, hg, h⟩ :=
          exists_of_decodeFrom_inner (by split <;> omega) (by split <;> omega) h
        obtain ⟨l, rest, rfl, hl', hg', h⟩ :=
          exists_of_decodeFrom_inner (by omega) (by omega) h
        obtain ⟨j, rest, t, rfl, hl'', hg'', rfl, ht⟩ :=
          exists_of_decodeFrom_last (by omega) (by omega) h
        refine ⟨_, rest, t, ?_, rfl, ht⟩
        rw [encodeChar_four hk (by split at hg <;> omega) (by omega) (by omega)
          (fun h0 => by rw [if_pos h0] at hl; omega) (fun h4 => by rw [if_pos h4] at hg; omega), hb,
          hbk]
        rfl

/-- Bytes are read as a text exactly when they are the bytes of that text. -/
theorem decode?_eq_some_iff {bytes : Bytes} {text : List Char} :
    decode? bytes = some text ↔ bytes = encode text := by
  constructor
  · unfold decode?
    intro h
    induction text generalizing bytes with
    | nil =>
      rcases exists_of_decodeFrom_none h with ⟨rfl, -⟩ | ⟨c, rest, t, -, hnil, -⟩
      · rfl
      · cases hnil
    | cons c text ih =>
      rcases exists_of_decodeFrom_none h with ⟨-, hnil⟩ | ⟨c', rest, t, rfl, hcons, hrest⟩
      · cases hnil
      · cases hcons
        rw [ih hrest, encode_cons]
  · rintro rfl
    exact decode?_encode text

theorem toString?_eq_some_iff {bytes : Bytes} {text : String} :
    toString? bytes = some text ↔ ofString text = bytes := by
  constructor
  · intro read
    obtain ⟨chars, decoded, rfl⟩ := Option.map_eq_some_iff.1 read
    rw [ofString, String.toList_ofList]
    exact (decode?_eq_some_iff.1 decoded).symm
  · rintro rfl
    exact toString?_ofString text

/-- Behind an encoded text reading starts anew. -/
theorem decode?_encode_append (text : List Char) (rest : Bytes) :
    decode? (encode text ++ rest) = (decode? rest).map (text ++ ·) := by
  unfold decode?
  induction text with
  | nil => simp
  | cons c text ih =>
    rw [encode_cons, List.append_assoc, decodeFrom_encodeChar, ih, Option.map_map]
    rfl

end SessionHandoff.Utf8
