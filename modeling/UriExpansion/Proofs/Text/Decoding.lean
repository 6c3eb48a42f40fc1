import UriExpansion.Proofs.Text.Utf8

/-!
Decoding of UTF-8 undoes encoding. The first byte of a character tells how many bytes
follow and in which range the next one lies, every further byte adds six bits, and after
the last one the decoder stands between characters again.
-/

namespace UriExpansion.Text.Utf8

namespace Decoder

variable (output : List (Option Char)) {bits missing code : Nat} {low high byte : UInt8}

theorem read_last (inRange : low ≤ byte ∧ byte ≤ high) :
    read ⟨output, some ⟨1, bits, low, high⟩⟩ byte =
      ⟨some (Char.ofNat (bits * 64 + (byte.toNat - 0x80))) :: output, none⟩ := by
  simp [read, inRange]

theorem read_inner (inRange : low ≤ byte ∧ byte ≤ high) :
    read ⟨output, some ⟨missing + 2, bits, low, high⟩⟩ byte =
      ⟨output, some ⟨missing + 1, bits * 64 + (byte.toNat - 0x80), 0x80, 0xBF⟩⟩ := by
  simp [read, inRange]

theorem toNat_continuation (number : Nat) :
    (UInt8.ofNat (number % 0x40 + 0x80)).toNat = number % 0x40 + 0x80 := by
  rw [UInt8.toNat_ofNat']
  omega

theorem continuation_inRange (number : Nat) :
    0x80 ≤ UInt8.ofNat (number % 0x40 + 0x80) ∧ UInt8.ofNat (number % 0x40 + 0x80) ≤ 0xBF := by
  simp only [UInt8.le_iff_toNat_le, toNat_continuation, UInt8.reduceToNat]
  omega

theorem readFirst_one (oneByte : code ≤ 0x7F) :
    readFirst output (UInt8.ofNat code) = ⟨some (Char.ofNat code) :: output, none⟩ := by
  have value : (UInt8.ofNat code).toNat = code := by
    rw [UInt8.toNat_ofNat']
    omega
  have small : UInt8.ofNat code < 0x80 := by
    rw [UInt8.lt_iff_toNat_lt, value]
    exact Nat.lt_succ_of_le oneByte
  rw [readFirst, if_pos small, value]

theorem readFirst_two (moreThanOne : ¬ code ≤ 0x7F) (twoBytes : code ≤ 0x7FF) :
    readFirst output (UInt8.ofNat (code / 64 % 0x20 + 0xC0)) =
      ⟨output, some ⟨1, code / 64, 0x80, 0xBF⟩⟩ := by
  have value : (UInt8.ofNat (code / 64 % 0x20 + 0xC0)).toNat = code / 64 + 0xC0 := by
    rw [UInt8.toNat_ofNat']
    omega
  simp only [readFirst, UInt8.lt_iff_toNat_lt, value, UInt8.reduceToNat]
  rw [if_neg (by omega), if_neg (by omega), if_pos (by omega), Nat.add_sub_cancel]

/-- Of three bytes the second is bounded further, so that the code is neither shorter nor a
surrogate. -/
theorem readFirst_three (moreThanTwo : ¬ code ≤ 0x7FF) (threeBytes : code ≤ 0xFFFF)
    (noSurrogate : code < 0xD800 ∨ 0xDFFF < code) :
    ∃ low high, readFirst output (UInt8.ofNat (code / 4096 % 0x10 + 0xE0)) =
        ⟨output, some ⟨2, code / 4096, low, high⟩⟩ ∧
      low ≤ UInt8.ofNat (code / 64 % 0x40 + 0x80) ∧
      UInt8.ofNat (code / 64 % 0x40 + 0x80) ≤ high := by
  have value : (UInt8.ofNat (code / 4096 % 0x10 + 0xE0)).toNat = code / 4096 + 0xE0 := by
    rw [UInt8.toNat_ofNat']
    omega
  simp only [readFirst, UInt8.lt_iff_toNat_lt, UInt8.le_iff_toNat_le, ← UInt8.toNat_inj, value,
    toNat_continuation, UInt8.reduceToNat]
  rw [if_neg (by omega), if_neg (by omega), if_neg (by omega)]
  by_cases least : code / 4096 = 0
  · rw [if_pos (by omega), least]
    exact ⟨0xA0, 0xBF, rfl, by simp only [UInt8.reduceToNat]; omega⟩
  · rw [if_neg (by omega)]
    by_cases beforeSurrogates : code / 4096 = 0x0D
    · rw [if_pos (by omega), beforeSurrogates]
      exact ⟨0x80, 0x9F, rfl, by simp only [UInt8.reduceToNat]; omega⟩
    · rw [if_neg (by omega), if_pos (by omega), Nat.add_sub_cancel]
      exact ⟨0x80, 0xBF, rfl, by simp only [UInt8.reduceToNat]; omega⟩

/-- Of four bytes the second is bounded further, so that the code is neither shorter nor too
great. -/
theorem readFirst_four (moreThanThree : ¬ code ≤ 0xFFFF) (bounded : code < 0x110000) :
    ∃ low high, readFirst output (UInt8.ofNat (code / 262144 % 0x08 + 0xF0)) =
        ⟨output, some ⟨3, code / 262144, low, high⟩⟩ ∧
      low ≤ UInt8.ofNat (code / 4096 % 0x40 + 0x80) ∧
      UInt8.ofNat (code / 4096 % 0x40 + 0x80) ≤ high := by
  have value : (UInt8.ofNat (code / 262144 % 0x08 + 0xF0)).toNat = code / 262144 + 0xF0 := by
    rw [UInt8.toNat_ofNat']
    omega
  simp only [readFirst, UInt8.lt_iff_toNat_lt, UInt8.le_iff_toNat_le, ← UInt8.toNat_inj, value,
    toNat_continuation, UInt8.reduceToNat]
  rw [if_neg (by omega), if_neg (by omega), if_neg (by omega), if_neg (by omega),
    if_neg (by omega), if_neg (by omega)]
  by_cases least : code / 262144 = 0
  · rw [if_pos (by omega), least]
    exact ⟨0x90, 0xBF, rfl, by simp only [UInt8.reduceToNat]; omega⟩
  · rw [if_neg (by omega)]
    by_cases greatest : code / 262144 = 4
    · rw [if_neg (by omega), if_pos (by omega), greatest]
      exact ⟨0x80, 0x8F, rfl, by simp only [UInt8.reduceToNat]; omega⟩
    · rw [if_pos (by omega), Nat.add_sub_cancel]
      exact ⟨0x80, 0xBF, rfl, by simp only [UInt8.reduceToNat]; omega⟩

/-- The bytes of a character are read as that character. -/
theorem foldl_read_utf8EncodeChar (c : Char) :
    (String.utf8EncodeChar c).foldl read ⟨output, none⟩ = ⟨some c :: output, none⟩ := by
  have whole : ∀ code, code = c.val.toNat → Char.ofNat code = c := by
    rintro code rfl
    exact Char.ofNat_toNat c
  have lastInRange := continuation_inRange c.val.toNat
  have innerInRange := continuation_inRange (c.val.toNat / 64)
  simp only [String.utf8EncodeChar]
  split
  next oneByte =>
    rw [List.foldl_cons, List.foldl_nil, read, readFirst_one output oneByte, whole _ rfl]
  split
  next moreThanOne twoBytes =>
    rw [List.foldl_cons, read, readFirst_two output moreThanOne twoBytes, List.foldl_cons,
      read_last output lastInRange, List.foldl_nil, toNat_continuation, whole _ (by omega)]
  split
  next moreThanTwo threeBytes =>
    have valid : c.val.toNat < 0xD800 ∨ 0xDFFF < c.val.toNat := c.valid.imp id And.left
    obtain ⟨low, high, first, secondInRange⟩ :=
      readFirst_three output moreThanTwo threeBytes valid
    rw [List.foldl_cons, read, first, List.foldl_cons, read_inner output secondInRange,
      List.foldl_cons, read_last output lastInRange, List.foldl_nil, toNat_continuation,
      toNat_continuation, whole _ (by omega)]
  next moreThanThree =>
    have bounded : c.val.toNat < 0x110000 := by
      have valid : c.val.toNat < 0xD800 ∨ 0xDFFF < c.val.toNat ∧ c.val.toNat < 0x110000 := c.valid
      omega
    obtain ⟨low, high, first, secondInRange⟩ := readFirst_four output moreThanThree bounded
    rw [List.foldl_cons, read, first, List.foldl_cons, read_inner output secondInRange,
      List.foldl_cons, read_inner output innerInRange, List.foldl_cons,
      read_last output lastInRange, List.foldl_nil, toNat_continuation, toNat_continuation,
      toNat_continuation, whole _ (by omega)]

theorem foldl_read_encode (text : List Char) :
    (encode text).foldl read ⟨output, none⟩ = ⟨(text.map some).reverse ++ output, none⟩ := by
  induction text generalizing output with
  | nil => rfl
  | cons c rest inductionHypothesis =>
      rw [encode_cons, List.foldl_append, foldl_read_utf8EncodeChar, inductionHypothesis]
      simp

end Decoder

theorem decode_encode (text : List Char) : decode (encode text) = text.map some := by
  rw [decode, Decoder.empty, Decoder.foldl_read_encode]
  simp [Decoder.finish]

/-- A text is recovered from its bytes. -/
theorem decodeLossy_encode (text : List Char) : decodeLossy (encode text) = text := by
  simp [decodeLossy, decode_encode, Function.comp_def]

end UriExpansion.Text.Utf8
