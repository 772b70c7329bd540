import Mathlib.Algebra.Order.Floor.Div
import SessionHandoff.Proofs.Cipher.Base64
import SessionHandoff.Proofs.Password.Exchange
import SessionHandoff.Proofs.Text.Blank

/-!
# The canonical text of bytes

A text spells bytes if its symbols hold the bits of the bytes in order, six each, with as few zero
bits behind them as fill the last symbol, and fill characters bring it to a multiple of four. There
is one such text for every byte sequence, and it is the one that is written (`isCanonical_iff`).
Reading accepts it and, blank ends aside, nothing else, and since it never holds the separator a key
text of two of them comes apart in one way (`canonical_texts_decoded`).
-/

set_option autoImplicit false

namespace SessionHandoff.Base64

/-! ## Bits -/

/-- The lowest bits of a number, the highest of them first. -/
def bits : Nat → Nat → List Bool
  | 0, _ => []
  | width + 1, n => n.testBit width :: bits width n

theorem length_bits (width n : Nat) : (bits width n).length = width := by
  induction width with
  | zero => rfl
  | succ width ih => rw [bits, List.length_cons, ih]

/-- The highest bits are those of the quotient, and the others follow. -/
theorem bits_add (high low n : Nat) :
    bits (high + low) n = bits high (n / 2 ^ low) ++ bits low n := by
  induction high with
  | zero => rw [Nat.zero_add, bits, List.nil_append]
  | succ high ih =>
    rw [Nat.succ_add, bits, bits, ih, Nat.testBit_div_two_pow, List.cons_append]

theorem bits_eq_iff {width m n : Nat} :
    bits width m = bits width n ↔ ∀ i < width, m.testBit i = n.testBit i := by
  induction width with
  | zero => simp [bits]
  | succ width ih =>
    rw [bits, bits, List.cons.injEq, ih]
    constructor
    · rintro ⟨top, rest⟩ i below
      rcases Nat.lt_succ_iff_lt_or_eq.1 below with lower | rfl
      · exact rest i lower
      · exact top
    · intro same
      exact ⟨same width (Nat.lt_succ_self width), fun i below => same i (Nat.lt_succ_of_lt below)⟩

/-- The lowest bits are those of the remainder. -/
theorem bits_mod {width top : Nat} (n : Nat) (within : width ≤ top) :
    bits width (n % 2 ^ top) = bits width n := by
  apply bits_eq_iff.2
  intro i below
  rw [Nat.testBit_mod_two_pow, decide_eq_true (by omega), Bool.true_and]

/-- Bits that were put together in one number are the bits of its two parts. -/
theorem bits_join (high low x : Nat) {y : Nat} (small : y < 2 ^ low) :
    bits (high + low) (x * 2 ^ low + y) = bits high x ++ bits low y := by
  have quotient : (x * 2 ^ low + y) / 2 ^ low = x := by
    rw [Nat.mul_comm, Nat.mul_add_div (Nat.two_pow_pos low), Nat.div_eq_of_lt small, Nat.add_zero]
  have remainder : (x * 2 ^ low + y) % 2 ^ low = y := by
    rw [Nat.mul_comm, Nat.mul_add_mod, Nat.mod_eq_of_lt small]
  rw [bits_add, quotient, ← bits_mod (x * 2 ^ low + y) (Nat.le_refl low), remainder]

theorem bits_zero (width : Nat) : bits width 0 = List.replicate width false := by
  induction width with
  | zero => rfl
  | succ width ih => rw [bits, ih, Nat.zero_testBit, List.replicate_succ]

/-- A number that has no more bits is told by them. -/
theorem bits_inj {width m n : Nat} (hm : m < 2 ^ width) (hn : n < 2 ^ width)
    (same : bits width m = bits width n) : m = n := by
  apply Nat.eq_of_testBit_eq
  intro i
  by_cases below : i < width
  · exact bits_eq_iff.1 same i below
  · -- all higher bits of both numbers are zero
    have high : 2 ^ width ≤ 2 ^ i := Nat.pow_le_pow_right (by decide) (by omega)
    rw [Nat.testBit_lt_two_pow (Nat.lt_of_lt_of_le hm high),
      Nat.testBit_lt_two_pow (Nat.lt_of_lt_of_le hn high)]

/-! ## Texts that spell bytes -/

/-- The symbols in the order of their values. -/
def alphabet : List Char :=
  ['A', 'B', 'C', 'D', 'E', 'F', 'G', 'H', 'I', 'J', 'K', 'L', 'M', 'N', 'O', 'P', 'Q', 'R', 'S',
    'T', 'U', 'V', 'W', 'X', 'Y', 'Z', 'a', 'b', 'c', 'd', 'e', 'f', 'g', 'h', 'i', 'j', 'k', 'l',
    'm', 'n', 'o', 'p', 'q', 'r', 's', 't', 'u', 'v', 'w', 'x', 'y', 'z', '0', '1', '2', '3', '4',
    '5', '6', '7', '8', '9', '+', '/']

/-- The bits of bytes. -/
def byteBits (bytes : Bytes) : List Bool :=
  bytes.flatMap fun b => bits 8 b.toNat

/-- The bits that symbols stand for, by their places in the alphabet. -/
def symbolBits (symbols : List Char) : List Bool :=
  symbols.flatMap fun c => bits 6 (alphabet.idxOf c)

/-- The symbols, with a number of fill characters after them, spell the bytes. -/
structure Spelling (bytes : Bytes) (symbols : List Char) (fill : Nat) : Prop where
  known : ∀ c ∈ symbols, c ∈ alphabet
  /-- The bits after those of the bytes are zero, and they are fewer than a symbol has. -/
  holds : ∃ spare < 6, symbolBits symbols = byteBits bytes ++ List.replicate spare false
  /-- No more fill characters than are needed. -/
  least : fill < 4
  filled : (symbols.length + fill) % 4 = 0

/-- The text spells the bytes. -/
def IsCanonical (text : List Char) (bytes : Bytes) : Prop :=
  ∃ symbols fill, Spelling bytes symbols fill ∧ text = symbols ++ List.replicate fill '='

theorem idxOf_symbol : ∀ n < 64, alphabet.idxOf (symbol n) = n := by decide

theorem symbol_mem_alphabet : ∀ n < 64, symbol n ∈ alphabet := by decide

theorem idxOf_lt {c : Char} (known : c ∈ alphabet) : alphabet.idxOf c < 2 ^ 6 :=
  List.idxOf_lt_length_of_mem known

theorem byteBits_cons (b : UInt8) (bytes : Bytes) :
    byteBits (b :: bytes) = bits 8 b.toNat ++ byteBits bytes := by
  rw [byteBits, List.flatMap_cons, byteBits]

theorem symbolBits_cons (c : Char) (symbols : List Char) :
    symbolBits (c :: symbols) = bits 6 (alphabet.idxOf c) ++ symbolBits symbols := by
  rw [symbolBits, List.flatMap_cons, symbolBits]

theorem symbolBits_symbol {n : Nat} (small : n < 64) (symbols : List Char) :
    symbolBits (symbol n :: symbols) = bits 6 n ++ symbolBits symbols := by
  rw [symbolBits_cons, idxOf_symbol n small]

theorem length_byteBits (bytes : Bytes) : (byteBits bytes).length = 8 * bytes.length := by
  induction bytes with
  | nil => rfl
  | cons b rest ih =>
    rw [byteBits_cons, List.length_append, length_bits, ih, List.length_cons]
    omega

theorem length_symbolBits (symbols : List Char) :
    (symbolBits symbols).length = 6 * symbols.length := by
  induction symbols with
  | nil => rfl
  | cons c rest ih =>
    rw [symbolBits_cons, List.length_append, length_bits, ih, List.length_cons]
    omega

/-- How many symbols there are, where they hold the bits of bytes and some zero bits. -/
theorem length_of_holds {bytes : Bytes} {symbols : List Char} {spare : Nat}
    (holds : symbolBits symbols = byteBits bytes ++ List.replicate spare false) :
    6 * symbols.length = 8 * bytes.length + spare := by
  have length := congrArg List.length holds
  rwa [length_symbolBits, List.length_append, length_byteBits, List.length_replicate] at length

/-- Symbols are told by their bits. -/
theorem symbolBits_inj {first second : List Char} (known : ∀ c ∈ first, c ∈ alphabet)
    (known' : ∀ c ∈ second, c ∈ alphabet) (same : symbolBits first = symbolBits second) :
    first = second := by
  induction first generalizing second with
  | nil =>
    have length := congrArg List.length same
    rw [length_symbolBits, length_symbolBits, List.length_nil] at length
    exact (List.eq_nil_of_length_eq_zero (by omega)).symm
  | cons c rest ih =>
    cases second with
    | nil =>
      have length := congrArg List.length same
      rw [length_symbolBits, length_symbolBits, List.length_cons, List.length_nil] at length
      omega
    | cons d others =>
      obtain ⟨hc, known⟩ := List.forall_mem_cons.1 known
      obtain ⟨hd, known'⟩ := List.forall_mem_cons.1 known'
      rw [symbolBits_cons, symbolBits_cons] at same
      -- each symbol has six bits, so the first six are those of the first symbol
      obtain ⟨head, tail⟩ := List.append_inj same (by rw [length_bits, length_bits])
      have place : alphabet.idxOf c = alphabet.idxOf d := bits_inj (idxOf_lt hc) (idxOf_lt hd) head
      rw [(List.idxOf_inj hc).1 place, ih known known' tail]

/-- There is one way to spell bytes: their number tells that of the zero bits, these tell the
number of symbols, and that tells the number of fill characters. -/
theorem Spelling.unique {bytes : Bytes} {first second : List Char} {fill fill' : Nat}
    (one : Spelling bytes first fill) (other : Spelling bytes second fill') :
    first = second ∧ fill = fill' := by
  obtain ⟨spare, few, holds⟩ := one.holds
  obtain ⟨spare', few', holds'⟩ := other.holds
  have length := length_of_holds holds
  have length' := length_of_holds holds'
  -- both numbers of zero bits are what the bits of the bytes lack to a multiple of six
  obtain rfl : spare = spare' := by omega
  obtain rfl : first = second := symbolBits_inj one.known other.known (holds.trans holds'.symm)
  have filled := one.filled
  have filled' := other.filled
  have least := one.least
  have least' := other.least
  exact ⟨rfl, by omega⟩

theorem IsCanonical.unique {bytes : Bytes} {text other : List Char}
    (one : IsCanonical text bytes) (another : IsCanonical other bytes) : text = other := by
  obtain ⟨first, fill, spelling, rfl⟩ := one
  obtain ⟨second, fill', spelling', rfl⟩ := another
  obtain ⟨rfl, rfl⟩ := spelling.unique spelling'
  rfl

/-! ## What is written

A byte is cut where a symbol ends: the first of three after six bits, the second after four, the
third after two. The symbol in between holds the end of one byte and the start of the next. -/

theorem bits_first (n : Nat) : bits 8 n = bits 6 (n / 4) ++ bits 2 n :=
  bits_add 6 2 n

theorem bits_second (n : Nat) : bits 8 n = bits 4 (n / 16) ++ bits 4 n :=
  bits_add 4 4 n

theorem bits_third (n : Nat) : bits 8 n = bits 2 (n / 64) ++ bits 6 n :=
  bits_add 2 6 n

theorem bits_first_second (m : Nat) {n : Nat} (small : n < 16) :
    bits 6 (m % 4 * 16 + n) = bits 2 m ++ bits 4 n := by
  rw [← bits_mod m (Nat.le_refl 2)]
  exact bits_join 2 4 (m % 4) small

theorem bits_second_third (m : Nat) {n : Nat} (small : n < 4) :
    bits 6 (m % 16 * 4 + n) = bits 4 m ++ bits 2 n := by
  rw [← bits_mod m (Nat.le_refl 4)]
  exact bits_join 4 2 (m % 16) small

theorem spelling_nil : Spelling [] [] 0 where
  known := by simp
  holds := ⟨0, by decide, rfl⟩
  least := by decide
  filled := rfl

theorem spelling_one (a : UInt8) :
    Spelling [a] [symbol (a.toNat / 4), symbol (a.toNat % 4 * 16)] 2 := by
  have ha := a.toNat_lt
  -- no byte follows, so the bits that the second symbol takes from it are zero
  have second : bits 6 (a.toNat % 4 * 16) = bits 2 a.toNat ++ bits 4 0 :=
    bits_first_second a.toNat (n := 0) (by decide)
  refine ⟨?_, ⟨4, by decide, ?_⟩, by decide, by simp⟩
  · simp only [List.forall_mem_cons]
    exact ⟨symbol_mem_alphabet _ (by omega), symbol_mem_alphabet _ (by omega), by simp⟩
  · rw [symbolBits_symbol (by omega), symbolBits_symbol (by omega), byteBits_cons, bits_first,
      second, bits_zero]
    simp [symbolBits, byteBits]

theorem spelling_two (a b : UInt8) :
    Spelling [a, b] [symbol (a.toNat / 4), symbol (a.toNat % 4 * 16 + b.toNat / 16),
      symbol (b.toNat % 16 * 4)] 1 := by
  have ha := a.toNat_lt
  have hb := b.toNat_lt
  have third : bits 6 (b.toNat % 16 * 4) = bits 4 b.toNat ++ bits 2 0 :=
    bits_second_third b.toNat (n := 0) (by decide)
  refine ⟨?_, ⟨2, by decide, ?_⟩, by decide, by simp⟩
  · simp only [List.forall_mem_cons]
    exact ⟨symbol_mem_alphabet _ (by omega), symbol_mem_alphabet _ (by omega),
      symbol_mem_alphabet _ (by omega), by simp⟩
  · rw [symbolBits_symbol (by omega), symbolBits_symbol (by omega), symbolBits_symbol (by omega),
      byteBits_cons, byteBits_cons, bits_first a.toNat, bits_second b.toNat,
      bits_first_second a.toNat (by omega), third, bits_zero]
    simp [symbolBits, byteBits]

/-- Three bytes in front are four symbols in front. -/
theorem Spelling.three {bytes : Bytes} {symbols : List Char} {fill : Nat}
    (rest : Spelling bytes symbols fill) (a b c : UInt8) :
    Spelling (a :: b :: c :: bytes)
      (symbol (a.toNat / 4) :: symbol (a.toNat % 4 * 16 + b.toNat / 16) ::
        symbol (b.toNat % 16 * 4 + c.toNat / 64) :: symbol (c.toNat % 64) :: symbols) fill := by
  have ha := a.toNat_lt
  have hb := b.toNat_lt
  have hc := c.toNat_lt
  have last : bits 6 (c.toNat % 64) = bits 6 c.toNat := bits_mod c.toNat (Nat.le_refl 6)
  obtain ⟨spare, few, holds⟩ := rest.holds
  refine ⟨?_, ⟨spare, few, ?_⟩, rest.least, ?_⟩
  · simp only [List.forall_mem_cons]
    exact ⟨symbol_mem_alphabet _ (by omega), symbol_mem_alphabet _ (by omega),
      symbol_mem_alphabet _ (by omega), symbol_mem_alphabet _ (by omega), rest.known⟩
  · rw [symbolBits_symbol (by omega), symbolBits_symbol (by omega), symbolBits_symbol (by omega),
      symbolBits_symbol (by omega), byteBits_cons, byteBits_cons, byteBits_cons,
      bits_first a.toNat, bits_second b.toNat, bits_third c.toNat,
      bits_first_second a.toNat (by omega), bits_second_third b.toNat (by omega), last, holds]
    simp only [List.append_assoc]
  · have filled := rest.filled
    simp only [List.length_cons]
    omega

/-- What is written of bytes spells them. -/
theorem isCanonical_encodeChars (bytes : Bytes) : IsCanonical (encodeChars bytes) bytes := by
  induction bytes using encodeChars.induct with
  | case1 a b c rest ih =>
    -- a whole group adds symbols in front and leaves zero bits and fill characters as they are
    obtain ⟨symbols, fill, spelling, written⟩ := ih
    exact ⟨_, fill, spelling.three a b c, by rw [encodeChars, written]; rfl⟩
  | case2 a b => exact ⟨_, 1, spelling_two a b, rfl⟩
  | case3 a => exact ⟨_, 2, spelling_one a, rfl⟩
  | case4 => exact ⟨[], 0, spelling_nil, rfl⟩

/-- A text spells bytes exactly if it is what is written of them. -/
theorem isCanonical_iff {text : String} {bytes : Bytes} :
    IsCanonical text.toList bytes ↔ text = encode bytes := by
  rw [← String.toList_inj, encode, String.toList_ofList]
  constructor
  · intro spelled
    exact spelled.unique (isCanonical_encodeChars bytes)
  · intro written
    rw [written]
    exact isCanonical_encodeChars bytes

/-- There are four characters for every three bytes or fewer. -/
theorem length_encode (bytes : Bytes) : (encode bytes).length = 4 * (bytes.length ⌈/⌉ 3) := by
  obtain ⟨symbols, fill, spelling, written⟩ := isCanonical_encodeChars bytes
  obtain ⟨spare, few, holds⟩ := spelling.holds
  have length := length_of_holds holds
  have filled := spelling.filled
  have least := spelling.least
  rw [encode, String.length_ofList, written, List.length_append, List.length_replicate,
    Nat.ceilDiv_eq_add_pred_div]
  omega

/-! ## What is read -/

/-- No character of an encoding is blank, so trimming stops at its ends. -/
theorem hasInkEnds_encode (bytes : Bytes) : Text.HasInkEnds (encode bytes).toList := by
  apply Text.HasInkEnds.of_forall
  intro c inside
  rw [encode, String.toList_ofList] at inside
  exact isBlank_of_mem_encodeChars inside

/-- A text decodes exactly if it is the encoding of its bytes with blank characters around it. -/
theorem decode_eq_ok_iff_isPadded {text : String} {bytes : Bytes} :
    decode text = .ok bytes ↔ Text.IsPadded text.toList (encode bytes).toList := by
  rw [decode_eq_ok_iff_trim, ← String.toList_inj, Text.trimString, String.toList_ofList,
    Text.trim_eq_iff]
  constructor
  · rintro ⟨padded, -⟩
    exact padded
  · intro padded
    exact ⟨padded, hasInkEnds_encode bytes⟩

/-- Two encodings are the parts of one text only, their key text. -/
theorem keyParts?_eq_encoded_iff {text : String} {key iv : Bytes} :
    keyParts? text = some (encode key, encode iv) ↔ text = keyText key (encode iv) := by
  constructor
  · intro split
    obtain ⟨whole, -⟩ := keyParts?_eq_some_iff.1 split
    rw [← String.toList_inj, whole, keyText, String.toList_ofList]
  · rintro rfl
    exact keyParts?_keyText key (keySeparator_not_mem_encode iv)

/-- **Base64 is read exactly where it is canonical.** For every byte sequence: a text decodes to it
exactly if, blank characters at its ends aside, it is what is written of the bytes. So what is
written is read back with any blank characters around it, and texts that decode to the same bytes
differ in these only. What is written is the one text that spells the bytes. It has four characters
for every three bytes or fewer, none of them blank and none the separator, so a text splits into
what is written of two byte sequences exactly if it is their key text. -/
theorem canonical_texts_decoded (bytes : Bytes) :
    (∀ text, decode text = .ok bytes ↔ Text.trimString text = encode bytes) ∧
    (∀ text, decode text = .ok bytes ↔ Text.IsPadded text.toList (encode bytes).toList) ∧
    (∀ text other, decode text = .ok bytes → decode other = .ok bytes →
      Text.trimString text = Text.trimString other) ∧
    (∀ text : String, IsCanonical text.toList bytes ↔ text = encode bytes) ∧
    (encode bytes).length = 4 * (bytes.length ⌈/⌉ 3) ∧
    (∀ c ∈ (encode bytes).toList, c ≠ keySeparator ∧ Text.isBlank c = false) ∧
    (∀ iv text, keyParts? text = some (encode bytes, encode iv) ↔
      text = keyText bytes (encode iv)) := by
  refine ⟨fun text => decode_eq_ok_iff_trim, fun text => decode_eq_ok_iff_isPadded, ?_,
    fun text => isCanonical_iff, length_encode bytes, ?_, fun iv text => keyParts?_eq_encoded_iff⟩
  · intro text other read readOther
    rw [decode_eq_ok_iff_trim.1 read, decode_eq_ok_iff_trim.1 readOther]
  · intro c inside
    constructor
    · rintro rfl
      exact keySeparator_not_mem_encode bytes inside
    · rw [encode, String.toList_ofList] at inside
      exact isBlank_of_mem_encodeChars inside

example : decode "\n QUI= " = .ok [65, 66] := by decide +kernel

example : decode "QUJ=" = .error (.invalidLastSymbol 74 2) := by decide +kernel

end SessionHandoff.Base64
