import UriExpansion.Text.Utf8

/-!
UTF-8 and ASCII. A character of ASCII is one byte below 128, and the bytes of any other
character are 128 or greater, so ASCII can be recognized in the bytes and is read off
them byte by byte.
-/

namespace UriExpansion.Text.Utf8

/-- A property of all bytes is one of finitely many numbers. -/
theorem forall_byte {motive : UInt8 → Prop}
    (checked : ∀ number < 256, motive (UInt8.ofNat number)) (byte : UInt8) : motive byte := by
  simpa using checked byte.toNat byte.toNat_lt

/-- A property of all characters of ASCII is one of finitely many numbers. -/
theorem forall_ascii {motive : Char → Prop}
    (checked : ∀ number < 0x80, motive (Char.ofNat number)) {c : Char}
    (ascii : c.toNat < 0x80) : motive c := by
  simpa using checked c.toNat ascii

theorem encode_cons (c : Char) (rest : List Char) :
    encode (c :: rest) = String.utf8EncodeChar c ++ encode rest :=
  List.flatMap_cons

@[simp]
theorem encode_append (left right : List Char) :
    encode (left ++ right) = encode left ++ encode right :=
  List.flatMap_append

theorem encode_ne_nil {text : List Char} (nonempty : text ≠ []) : encode text ≠ [] := by
  obtain ⟨c, rest, equality⟩ := List.exists_cons_of_ne_nil nonempty
  rw [equality, encode_cons]
  exact List.append_ne_nil_of_left_ne_nil String.utf8EncodeChar_ne_nil _

theorem utf8EncodeChar_of_ascii {c : Char} (ascii : c.toNat < 0x80) :
    String.utf8EncodeChar c = [c.toUInt8] := by
  have oneByte : c.utf8Size = 1 := by
    rw [Char.utf8Size_eq_one_iff, UInt32.le_iff_toNat_le]
    exact Nat.le_of_lt_succ ascii
  rw [String.utf8EncodeChar_eq_singleton oneByte]
  rfl

theorem encode_cons_of_ascii {c : Char} (ascii : c.toNat < 0x80) (rest : List Char) :
    encode (c :: rest) = c.toUInt8 :: encode rest := by
  rw [encode_cons, utf8EncodeChar_of_ascii ascii, List.singleton_append]

theorem toUInt8_mem_encode {c : Char} (ascii : c.toNat < 0x80) {text : List Char}
    (membership : c ∈ text) : c.toUInt8 ∈ encode text := by
  refine List.mem_flatMap.mpr ⟨c, membership, ?_⟩
  rw [utf8EncodeChar_of_ascii ascii]
  exact List.mem_cons_self

theorem ofUInt8_toUInt8 {c : Char} (ascii : c.toNat < 0x80) : Char.ofUInt8 c.toUInt8 = c :=
  forall_ascii (motive := fun c => Char.ofUInt8 c.toUInt8 = c) (by decide) ascii

theorem toUInt8_ofUInt8 (byte : UInt8) : (Char.ofUInt8 byte).toUInt8 = byte :=
  byte.toUInt8_toUInt32

theorem toNat_ofUInt8_lt {byte : UInt8} (ascii : byte < 0x80) :
    (Char.ofUInt8 byte).toNat < 0x80 :=
  ascii

/-- The size of a text on top of what has been counted. -/
theorem foldl_utf8Size (counted : Nat) (text : List Char) :
    text.foldl (fun total c => total + c.utf8Size) counted = counted + size text := by
  unfold size
  induction text generalizing counted with
  | nil => rfl
  | cons c rest inductionHypothesis =>
      rw [List.foldl_cons, List.foldl_cons, inductionHypothesis (counted + c.utf8Size),
        inductionHypothesis (0 + c.utf8Size)]
      omega

theorem size_cons (c : Char) (rest : List Char) : size (c :: rest) = c.utf8Size + size rest := by
  rw [size, List.foldl_cons, foldl_utf8Size, Nat.zero_add]

theorem size_append (left right : List Char) :
    size (left ++ right) = size left + size right := by
  rw [size, List.foldl_append, foldl_utf8Size]
  rfl

theorem size_toList (text : String) : size text.toList = text.utf8ByteSize := by
  have ofList : ∀ chars : List Char, size chars = (String.ofList chars).utf8ByteSize := by
    intro chars
    induction chars with
    | nil => rfl
    | cons c rest inductionHypothesis =>
        rw [size_cons, String.ofList_cons, String.utf8ByteSize_append,
          String.utf8ByteSize_singleton, inductionHypothesis]
  rw [ofList, String.ofList_toList]

/-- Outside ASCII no byte of a character is one of ASCII. -/
theorem le_of_mem_utf8EncodeChar {c : Char} (wide : 0x80 ≤ c.toNat) {byte : UInt8}
    (membership : byte ∈ String.utf8EncodeChar c) : 0x80 ≤ byte := by
  have codeWide : ¬ c.val.toNat ≤ 0x7f := Nat.not_le_of_lt wide
  rw [UInt8.le_iff_toNat_le]
  simp only [String.utf8EncodeChar, if_neg codeWide] at membership
  split at membership
  · simp only [List.mem_cons, List.not_mem_nil, or_false] at membership
    rcases membership with rfl | rfl <;>
      · simp only [UInt8.toNat_ofNat', UInt8.reduceToNat]
        omega
  · split at membership
    · simp only [List.mem_cons, List.not_mem_nil, or_false] at membership
      rcases membership with rfl | rfl | rfl <;>
        · simp only [UInt8.toNat_ofNat', UInt8.reduceToNat]
          omega
    · simp only [List.mem_cons, List.not_mem_nil, or_false] at membership
      rcases membership with rfl | rfl | rfl | rfl <;>
        · simp only [UInt8.toNat_ofNat', UInt8.reduceToNat]
          omega

/-- A byte of ASCII stands for its own character only. -/
theorem mem_of_toUInt8_mem_encode {c : Char} (ascii : c.toNat < 0x80) {text : List Char}
    (membership : c.toUInt8 ∈ encode text) : c ∈ text := by
  obtain ⟨d, inText, inBytes⟩ := List.mem_flatMap.mp membership
  by_cases wide : 0x80 ≤ d.toNat
  · have small : c.toUInt8 < 0x80 :=
      forall_ascii (motive := fun c => c.toUInt8 < 0x80) (by decide) ascii
    exact absurd (le_of_mem_utf8EncodeChar wide inBytes) (UInt8.not_le.mpr small)
  · have asciiToo := Nat.lt_of_not_le wide
    rw [utf8EncodeChar_of_ascii asciiToo, List.mem_singleton] at inBytes
    rw [← ofUInt8_toUInt8 ascii, inBytes, ofUInt8_toUInt8 asciiToo]
    exact inText

theorem ascii_of_encode {text : List Char} (ascii : ∀ byte ∈ encode text, byte < 0x80) :
    ∀ c ∈ text, c.toNat < 0x80 := by
  intro c membership
  apply Nat.lt_of_not_le
  intro wide
  obtain ⟨byte, rest, equality⟩ :=
    List.exists_cons_of_ne_nil (String.utf8EncodeChar_ne_nil (c := c))
  have inCharacter : byte ∈ String.utf8EncodeChar c := equality ▸ List.mem_cons_self
  have below := ascii byte (List.mem_flatMap.mpr ⟨c, membership, inCharacter⟩)
  exact UInt8.not_lt.mpr (le_of_mem_utf8EncodeChar wide inCharacter) below

/-- The bytes of a text of ASCII are its characters. -/
theorem map_ofUInt8_encode {text : List Char} (ascii : ∀ c ∈ text, c.toNat < 0x80) :
    (encode text).map Char.ofUInt8 = text := by
  induction text with
  | nil => rfl
  | cons c rest inductionHypothesis =>
      have firstAscii := ascii c List.mem_cons_self
      rw [encode_cons_of_ascii firstAscii, List.map_cons, ofUInt8_toUInt8 firstAscii,
        inductionHypothesis fun c membership => ascii c (List.mem_cons_of_mem _ membership)]

end UriExpansion.Text.Utf8
