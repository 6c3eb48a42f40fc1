import UriExpansion.Proofs.Percent.Decoding

/-!
The skeleton of a URI: the delimiters that are left when all escapes and all unreserved
characters are taken out. Finished texts are taken apart without cutting an escape, so
the skeleton of two such texts put together is that of the one behind that of the other.
-/

namespace UriExpansion

namespace Percent

/-- What is left of bytes without their escapes and unreserved characters. -/
def skeleton : List UInt8 → List UInt8
  | byte :: high :: low :: rest =>
      if byte = 0x25 && isHexDigit high && isHexDigit low then skeleton rest
      else if isUnreserved byte then skeleton (high :: low :: rest)
      else byte :: skeleton (high :: low :: rest)
  | byte :: rest => if isUnreserved byte then skeleton rest else byte :: skeleton rest
  | [] => []

theorem skeleton_cons_of_ne {byte : UInt8} (notPercent : byte ≠ 0x25) (rest : List UInt8) :
    skeleton (byte :: rest) =
      if isUnreserved byte then skeleton rest else byte :: skeleton rest := by
  match rest with
  | [] | [_] => rfl
  | high :: low :: later => simp [skeleton, notPercent]

theorem skeleton_escaped {high low : UInt8} (highDigit : isHexDigit high = true)
    (lowDigit : isHexDigit low = true) (rest : List UInt8) :
    skeleton (0x25 :: high :: low :: rest) = skeleton rest := by
  simp [skeleton, highDigit, lowDigit]

theorem skeleton_escape_append (byte : UInt8) (rest : List UInt8) :
    skeleton (Text.Utf8.encode (escape byte) ++ rest) = skeleton rest := by
  obtain ⟨high, low⟩ := isHexDigit_escape byte
  rw [encode_escape]
  exact skeleton_escaped high low rest

theorem skeleton_cons_of_isUnreserved {byte : UInt8} (unreserved : isUnreserved byte = true)
    (rest : List UInt8) : skeleton (byte :: rest) = skeleton rest := by
  rw [skeleton_cons_of_ne (ne_percent_of_isUnreserved unreserved), if_pos unreserved]

/-- Finished bytes are made up of bytes that stand for themselves and of escapes. -/
theorem areFinished_induction {motive : List UInt8 → Prop} (nil : motive [])
    (plain : ∀ {byte rest}, Allowed.unreservedAndReserved.contains byte = true →
      motive rest → motive (byte :: rest))
    (escape : ∀ {high low rest}, isHexDigit high = true → isHexDigit low = true →
      motive rest → motive (0x25 :: high :: low :: rest))
    {bytes : List UInt8} (finished : AreFinished bytes) : motive bytes := by
  match bytes, finished with
  | [], _ => exact nil
  | byte :: rest, ⟨.inl contained, later⟩ =>
      exact plain contained (areFinished_induction nil plain escape later)
  | byte :: rest, ⟨.inr ⟨percent, digits⟩, later⟩ =>
      subst percent
      match rest, digits, later with
      | high :: low :: rest, digits, later =>
          obtain ⟨highDigit, lowDigit⟩ := Bool.and_eq_true_iff.mp digits
          exact escape highDigit lowDigit (areFinished_induction nil plain escape later.2.2)

theorem skeleton_append {left : List UInt8} (finished : AreFinished left)
    (right : List UInt8) : skeleton (left ++ right) = skeleton left ++ skeleton right := by
  refine areFinished_induction
    (motive := fun left => skeleton (left ++ right) = skeleton left ++ skeleton right)
    rfl ?plain ?escape finished
  case plain =>
    intro byte rest contained inductionHypothesis
    have notPercent := ne_percent_of_contains contained
    rw [List.cons_append, skeleton_cons_of_ne notPercent, skeleton_cons_of_ne notPercent,
      inductionHypothesis]
    split <;> rfl
  case escape =>
    intro high low rest highDigit lowDigit inductionHypothesis
    rw [List.cons_append, List.cons_append, List.cons_append,
      skeleton_escaped highDigit lowDigit, skeleton_escaped highDigit lowDigit,
      inductionHypothesis]

/-- Of a finished text nothing but reserved characters is left. -/
theorem isReserved_of_mem_skeleton {bytes : List UInt8} (finished : AreFinished bytes) :
    ∀ byte ∈ skeleton bytes, isReserved byte = true := by
  refine areFinished_induction
    (motive := fun bytes => ∀ byte ∈ skeleton bytes, isReserved byte = true)
    (fun _ impossible => nomatch impossible) ?plain ?escape finished
  case plain =>
    intro first rest contained inductionHypothesis
    rw [skeleton_cons_of_ne (ne_percent_of_contains contained)]
    split
    next => exact inductionHypothesis
    next notUnreserved =>
      have reserved := (Bool.or_eq_true_iff.mp contained).resolve_left notUnreserved
      exact List.forall_mem_cons.mpr ⟨reserved, inductionHypothesis⟩
  case escape =>
    intro high low rest highDigit lowDigit inductionHypothesis
    rw [skeleton_escaped highDigit lowDigit]
    exact inductionHypothesis

end Percent

namespace Allowed

open Percent

/-- No delimiter comes out of a text that is encoded without reserved characters. -/
theorem skeleton_encodeChars (text : List Char) :
    skeleton (Text.Utf8.encode (unreserved.encodeChars text)) = [] := by
  rw [encodeChars]
  induction Text.Utf8.encode (Text.NormalForm.nfc text) with
  | nil => rfl
  | cons byte rest inductionHypothesis =>
      rw [encode_encodeBytes_cons]
      split
      next copied =>
        rw [List.singleton_append, skeleton_cons_of_isUnreserved copied, inductionHypothesis]
      next => rw [skeleton_escape_append, inductionHypothesis]

end Allowed

end UriExpansion
