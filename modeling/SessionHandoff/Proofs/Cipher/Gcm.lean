import SessionHandoff.Cipher.Gcm

/-!
# Opening and sealing in Galois counter mode

Adding the key stream twice leaves every byte as it was, so opening gives back what was sealed. The
other way round the tag decides: a sealed text opens only if its last sixteen bytes are the tag of
the rest, and then it is the sealed form of what it opens to (`decipher_eq_some_iff`). Nothing about
the block cipher is used.
-/

set_option autoImplicit false

namespace SessionHandoff.Gcm

variable (cipher : Block → Block)

/-! ## Counter mode -/

@[simp] theorem length_crypt (counter : Block) (bytes : Bytes) :
    (crypt cipher counter bytes).length = bytes.length := by
  simp only [crypt, blockCount, List.length_zipWith, length_keyStream]
  omega

theorem zipWith_xor_zipWith_xor {a k : Bytes} (h : a.length ≤ k.length) :
    List.zipWith (· ^^^ ·) (List.zipWith (· ^^^ ·) a k) k = a := by
  induction a generalizing k with
  | nil => rfl
  | cons b a ih =>
    cases k with
    | nil => simp at h
    | cons s k =>
      rw [List.zipWith_cons_cons, List.zipWith_cons_cons, ih (Nat.le_of_succ_le_succ h),
        UInt8.xor_assoc, UInt8.xor_self, UInt8.xor_zero]

/-- Adding the key stream twice changes nothing. -/
@[simp] theorem crypt_crypt (counter : Block) (bytes : Bytes) :
    crypt cipher counter (crypt cipher counter bytes) = bytes := by
  have hlen := length_crypt cipher counter bytes
  unfold crypt at hlen ⊢
  -- The length is kept, so both passes add the same stretch of the key stream.
  rw [hlen]
  apply zipWith_xor_zipWith_xor
  rw [length_keyStream, blockCount]
  omega

/-! ## Sealed texts -/

variable {cipher} {nonce : Bytes}

/-- A body with sixteen bytes after it opens exactly if these are its tag. -/
theorem decipher_append {body tail : Bytes} (h : tail.length = tagLength) :
    decipher cipher nonce (body ++ tail) =
      if tail = tag cipher nonce body then
        some (crypt cipher (nextCounter (firstCounter nonce)) body)
      else none := by
  have hlen : (body ++ tail).length - tagLength = body.length := by
    rw [List.length_append, h]
    omega
  have hlong : ¬ (body ++ tail).length < tagLength := by
    rw [List.length_append, h]
    omega
  rw [decipher, if_neg hlong, hlen]
  simp only [List.take_left, List.drop_left]

/-- Opening gives back what was sealed. -/
@[simp] theorem decipher_encipher (plain : Bytes) :
    decipher cipher nonce (encipher cipher nonce plain) = some plain := by
  unfold encipher
  rw [decipher_append (length_tag _ _ _), if_pos rfl, crypt_crypt]

/-- What opens is the sealed form of what it opens to. -/
theorem decipher_eq_some_iff {sealedBytes plain : Bytes} :
    decipher cipher nonce sealedBytes = some plain ↔
      sealedBytes = encipher cipher nonce plain := by
  constructor
  · intro h
    unfold decipher at h
    split at h
    · cases h
    · dsimp only at h
      split at h
      · next htag =>
        cases h
        -- Sealing computes the tag of the body once more, and it is the tag that was compared.
        unfold encipher
        dsimp only
        rw [crypt_crypt, ← htag, List.take_append_drop]
      · cases h
  · rintro rfl
    exact decipher_encipher plain

end SessionHandoff.Gcm
