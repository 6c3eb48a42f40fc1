import UriExpansion.Proofs.Percent.Scan

/-!
What a decoder recovers from an encoded text. Where no reserved character may stand, that
is the text in normal form, byte by byte. Where escapes are kept, the decoder reads what it
would have read without the encoding: the scan that encodes and the decoder take an escape
at the same places, and every byte that the scan escapes comes back as itself.
-/

namespace UriExpansion

namespace Percent

theorem decode_escape {high low : UInt8} (highDigit : isHexDigit high = true)
    (lowDigit : isHexDigit low = true) (rest : List UInt8) :
    decode (0x25 :: high :: low :: rest) = (hexValue high * 16 + hexValue low) :: decode rest := by
  simp [decode, highDigit, lowDigit]

/-- Where no escape starts, the decoder keeps one byte. -/
theorem decode_cons {byte : UInt8} {rest : List UInt8}
    (noEscape : startsWithEscape (byte :: rest) = false) :
    decode (byte :: rest) = byte :: decode rest := by
  match rest with
  | [] | [_] => rfl
  | high :: low :: later =>
      rw [decode, if_neg]
      intro escape
      simp only [startsWithEscape, startsWithHexPair] at noEscape
      rw [← Bool.and_assoc, escape] at noEscape
      cases noEscape

/-- A byte that is copied is no `%`, so in front of any text it is read as it was. -/
theorem decode_scanByte_append (allowed : Allowed) (byte : UInt8) (rest : List UInt8) :
    decode (Text.Utf8.encode (scanByte allowed byte) ++ rest) = byte :: decode rest := by
  unfold scanByte
  split
  next contained =>
    have mayStand := contains_reserved_of_contains allowed contained
    have ascii := Text.Utf8.toNat_ofUInt8_lt (lt_of_contains mayStand)
    rw [Text.Utf8.encode_cons_of_ascii ascii, Text.Utf8.toUInt8_ofUInt8, List.cons_append]
    exact decode_cons_of_ne (ne_percent_of_contains mayStand) rest
  next => rw [upperEscape_eq_escape, decode_escape_append]

theorem encode_escape_cons {high low : UInt8} (highDigit : isHexDigit high = true)
    (lowDigit : isHexDigit low = true) (rest : List Char) :
    Text.Utf8.encode ('%' :: Char.ofUInt8 high :: Char.ofUInt8 low :: rest) =
      0x25 :: high :: low :: Text.Utf8.encode rest := by
  have ascii : ∀ {digit : UInt8}, isHexDigit digit = true →
      (Char.ofUInt8 digit).toNat < 0x80 := fun isDigit =>
    Text.Utf8.toNat_ofUInt8_lt (lt_of_contains (contains_of_isHexDigit _ isDigit))
  rw [Text.Utf8.encode_cons_of_ascii (by decide), Text.Utf8.encode_cons_of_ascii (ascii highDigit),
    Text.Utf8.encode_cons_of_ascii (ascii lowDigit), Text.Utf8.toUInt8_ofUInt8,
    Text.Utf8.toUInt8_ofUInt8]
  rfl

/-- The scan and the decoder step over the same escapes. -/
theorem decode_scan (bytes : List UInt8) :
    decode (Text.Utf8.encode (scan bytes)) = decode bytes := by
  refine escape_induction
    (motive := fun bytes => decode (Text.Utf8.encode (scan bytes)) = decode bytes)
    rfl ?escape ?plain bytes
  case escape =>
    intro high low rest highDigit lowDigit inductionHypothesis
    rw [scan_escape highDigit lowDigit, encode_escape_cons highDigit lowDigit,
      decode_escape highDigit lowDigit, decode_escape highDigit lowDigit, inductionHypothesis]
  case plain =>
    intro byte rest noEscape inductionHypothesis
    rw [scan_cons noEscape, Text.Utf8.encode_append, decode_scanByte_append, inductionHypothesis,
      decode_cons noEscape]

end Percent

namespace Allowed

open Percent

theorem decode_encode_unreserved (text : String) :
    decode (Text.Utf8.encode (unreserved.encode text).toList) = normalBytes text := by
  rw [encode, String.toList_ofList, decode_encodeChars]
  rfl

theorem decode_encode_reserved (text : String) :
    decode (Text.Utf8.encode (unreservedAndReserved.encode text).toList) =
      decode (normalBytes text) := by
  rw [encode, String.toList_ofList, encodeChars, encodeBytes_eq_scan, decode_scan]
  rfl

/-- No two normal forms are encoded alike. -/
theorem encode_unreserved_eq_iff {left right : String} :
    unreserved.encode left = unreserved.encode right ↔
      Text.NormalForm.nfc left.toList = Text.NormalForm.nfc right.toList := by
  constructor
  · intro same
    have sameBytes : normalBytes left = normalBytes right := by
      rw [← decode_encode_unreserved left, ← decode_encode_unreserved right, same]
    rw [← Text.Utf8.decodeLossy_encode (Text.NormalForm.nfc left.toList),
      ← Text.Utf8.decodeLossy_encode (Text.NormalForm.nfc right.toList)]
    exact congrArg Text.Utf8.decodeLossy sameBytes
  · intro same
    rw [encode, encode, encodeChars, encodeChars, same]

/-- A decoder recovers a text in normal form from its encoding without reserved characters,
so exactly the texts with one normal form are encoded alike. Encoding that keeps escapes
leaves a decoder reading what it reads in the text in normal form. -/
theorem decode_encode_recovers :
    (∀ text : String,
      decode (Text.Utf8.encode (unreserved.encode text).toList) = normalBytes text) ∧
    (∀ left right : String, unreserved.encode left = unreserved.encode right ↔
      Text.NormalForm.nfc left.toList = Text.NormalForm.nfc right.toList) ∧
    ∀ text : String, decode (Text.Utf8.encode (unreservedAndReserved.encode text).toList) =
      decode (normalBytes text) :=
  ⟨decode_encode_unreserved, fun _ _ => encode_unreserved_eq_iff, decode_encode_reserved⟩

example : decode (Text.Utf8.encode (unreservedAndReserved.encode "%%41%4%c3%A4ä").toList) =
    Text.Utf8.encode "%A%4ää".toList := by decide +kernel

end Allowed

end UriExpansion
