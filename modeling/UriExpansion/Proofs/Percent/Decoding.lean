import UriExpansion.Percent.Form
import UriExpansion.Proofs.Percent.Encoding
import UriExpansion.Proofs.Text.Decoding

/-!
Decoding undoes encoding. Where no reserved character may stand, every byte is written by
itself or as an escape, so the bytes of the text in normal form come back, whatever
the text holds.
-/

namespace UriExpansion

namespace Percent

theorem decode_cons_of_ne {byte : UInt8} (notPercent : byte ≠ 0x25) (rest : List UInt8) :
    decode (byte :: rest) = byte :: decode rest := by
  match rest with
  | [] | [_] => rfl
  | high :: low :: later => simp [decode, notPercent]

theorem decode_of_not_mem {bytes : List UInt8} (noPercent : 0x25 ∉ bytes) :
    decode bytes = bytes := by
  induction bytes with
  | nil => rfl
  | cons byte rest inductionHypothesis =>
      rw [List.mem_cons, not_or] at noPercent
      rw [decode_cons_of_ne (Ne.symm noPercent.1), inductionHypothesis noPercent.2]

theorem hexValue_hexDigit {number : UInt8} (small : number < 16) :
    hexValue (hexDigit number).toUInt8 = number :=
  forall_digit (motive := fun number => hexValue (hexDigit number).toUInt8 = number)
    (by decide) small

/-- The digits of an escape are those of its byte. -/
theorem hexValue_escape (byte : UInt8) :
    hexValue (hexDigit (byte / 16)).toUInt8 * 16 + hexValue (hexDigit (byte % 16)).toUInt8 =
      byte := by
  rw [hexValue_hexDigit (highDigit_lt byte), hexValue_hexDigit (lowDigit_lt byte)]
  apply UInt8.toNat_inj.mp
  have small := byte.toNat_lt
  rw [UInt8.toNat_add, UInt8.toNat_mul, UInt8.toNat_div, UInt8.toNat_mod]
  simp only [UInt8.reduceToNat]
  omega

theorem decode_escape_append (byte : UInt8) (rest : List UInt8) :
    decode (Text.Utf8.encode (escape byte) ++ rest) = byte :: decode rest := by
  obtain ⟨high, low⟩ := isHexDigit_escape byte
  rw [encode_escape]
  simp [decode, high, low, hexValue_escape]

theorem ne_percent_of_contains {byte : UInt8}
    (contained : Allowed.unreservedAndReserved.contains byte = true) : byte ≠ 0x25 := by
  rintro rfl
  revert contained
  decide

theorem ne_percent_of_isUnreserved {byte : UInt8} (unreserved : isUnreserved byte = true) :
    byte ≠ 0x25 :=
  ne_percent_of_contains (contains_reserved_of_contains .unreserved unreserved)

end Percent

namespace Allowed

open Percent

/-- Where no reserved character may stand, the bytes are written one by one. -/
theorem encodeBytes_unreserved (bytes : List UInt8) :
    unreserved.encodeBytes bytes =
      bytes.flatMap fun byte => if isUnreserved byte then [Char.ofUInt8 byte] else escape byte := by
  induction bytes with
  | nil => rfl
  | cons byte rest inductionHypothesis =>
      rw [encodeBytes_cons, inductionHypothesis, List.flatMap_cons]
      simp [encodeByte, keeps, contains]

theorem encode_encodeBytes_cons (byte : UInt8) (rest : List UInt8) :
    Text.Utf8.encode (unreserved.encodeBytes (byte :: rest)) =
      (if isUnreserved byte then [byte] else Text.Utf8.encode (escape byte)) ++
        Text.Utf8.encode (unreserved.encodeBytes rest) := by
  rw [encodeBytes_unreserved, encodeBytes_unreserved, List.flatMap_cons, Text.Utf8.encode_append]
  split
  next copied =>
    have ascii := Text.Utf8.toNat_ofUInt8_lt (lt_of_isUnreserved copied)
    rw [Text.Utf8.encode_cons_of_ascii ascii, Text.Utf8.toUInt8_ofUInt8]
    rfl
  next => rfl

theorem decode_encodeBytes (bytes : List UInt8) :
    decode (Text.Utf8.encode (unreserved.encodeBytes bytes)) = bytes := by
  induction bytes with
  | nil => rfl
  | cons byte rest inductionHypothesis =>
      rw [encode_encodeBytes_cons]
      split
      next copied =>
        rw [List.singleton_append, decode_cons_of_ne (ne_percent_of_isUnreserved copied),
          inductionHypothesis]
      next => rw [decode_escape_append, inductionHypothesis]

theorem decode_encodeChars (text : List Char) :
    decode (Text.Utf8.encode (unreserved.encodeChars text)) =
      Text.Utf8.encode (Text.NormalForm.nfc text) :=
  decode_encodeBytes _

/-- No delimiter is written. -/
theorem not_mem_encodeChars {c : Char} (notPercent : c ≠ '%')
    (escaped : isUnreserved c.toUInt8 = false) (text : List Char) :
    c ∉ unreserved.encodeChars text := by
  rw [encodeChars, encodeBytes_unreserved]
  intro membership
  obtain ⟨byte, -, written⟩ := List.mem_flatMap.mp membership
  split at written
  next copied =>
    rw [List.mem_singleton.mp written, Text.Utf8.toUInt8_ofUInt8, copied] at escaped
    cases escaped
  next =>
    have digits := isHexDigit_escape byte
    have unreservedDigit : ∀ {digit : Char}, isHexDigit digit.toUInt8 = true →
        isUnreserved digit.toUInt8 = true :=
      contains_of_isHexDigit .unreserved
    simp only [escape, List.mem_cons, List.not_mem_nil, or_false] at written
    rcases written with percent | rfl | rfl
    · exact notPercent percent
    · rw [unreservedDigit digits.1] at escaped
      cases escaped
    · rw [unreservedDigit digits.2] at escaped
      cases escaped

end Allowed

namespace Percent

theorem decodeForm_of_not_mem {text : List Char} (noPlus : '+' ∉ text) :
    decodeForm text = Text.Utf8.decodeLossy (decode (Text.Utf8.encode text)) := by
  have unchanged : (text.map fun c => if c = '+' then ' ' else c) = text := by
    refine (List.map_congr_left fun c membership => ?_).trans (List.map_id text)
    have different : c ≠ '+' := fun plus => noPlus (plus ▸ membership)
    exact if_neg different
  rw [decodeForm, unchanged]

/-- A text that was encoded is read as its normal form. -/
theorem decodeForm_encodeChars (text : List Char) :
    decodeForm (Allowed.unreserved.encodeChars text) = Text.NormalForm.nfc text := by
  have noPlus := Allowed.not_mem_encodeChars (c := '+') (by decide) (by decide) text
  rw [decodeForm_of_not_mem noPlus, Allowed.decode_encodeChars, Text.Utf8.decodeLossy_encode]

end Percent

end UriExpansion
