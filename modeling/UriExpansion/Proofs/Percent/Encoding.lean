import UriExpansion.Percent.Encoding
import UriExpansion.Proofs.Text.NormalForm
import UriExpansion.Proofs.Text.Utf8

/-!
What encoding produces, and what it leaves alone. Both are the same texts: those whose
bytes may all stand in a URI, apart from `%` signs that belong to an escape. Such texts
may be put one behind the other, since no escape is cut off at their ends.
-/

namespace UriExpansion

namespace Percent

/-- Whether every byte may stand in a URI by itself or is a `%` in front of two
hexadecimal digits. -/
def AreFinished : List UInt8 → Prop
  | [] => True
  | byte :: rest =>
      (Allowed.unreservedAndReserved.contains byte = true ∨
        byte = 0x25 ∧ startsWithHexPair rest = true) ∧ AreFinished rest

instance AreFinished.decidable : (bytes : List UInt8) → Decidable (AreFinished bytes)
  | [] => inferInstanceAs (Decidable True)
  | byte :: rest =>
      have := AreFinished.decidable rest
      inferInstanceAs (Decidable
        ((Allowed.unreservedAndReserved.contains byte = true ∨
          byte = 0x25 ∧ startsWithHexPair rest = true) ∧ AreFinished rest))

/-- Whether a text needs no further encoding. -/
def IsFinished (text : List Char) : Prop :=
  AreFinished (Text.Utf8.encode text)

instance (text : List Char) : Decidable (IsFinished text) :=
  inferInstanceAs (Decidable (AreFinished (Text.Utf8.encode text)))

theorem startsWithHexPair_append {left : List UInt8} (right : List UInt8)
    (found : startsWithHexPair left = true) : startsWithHexPair (left ++ right) = true := by
  match left, found with
  | _ :: _ :: _, found => exact found

theorem areFinished_append {left right : List UInt8} (leftFinished : AreFinished left)
    (rightFinished : AreFinished right) : AreFinished (left ++ right) := by
  induction left with
  | nil => exact rightFinished
  | cons byte rest inductionHypothesis =>
      refine ⟨leftFinished.1.imp_right fun escaped => ?_, inductionHypothesis leftFinished.2⟩
      exact ⟨escaped.1, startsWithHexPair_append right escaped.2⟩

theorem contains_reserved_of_contains (allowed : Allowed) {byte : UInt8}
    (contained : allowed.contains byte = true) :
    Allowed.unreservedAndReserved.contains byte = true := by
  cases allowed with
  | unreserved => exact Bool.or_eq_true_iff.mpr (.inl contained)
  | unreservedAndReserved => exact contained

theorem contains_of_isHexDigit (allowed : Allowed) {byte : UInt8}
    (digit : isHexDigit byte = true) : allowed.contains byte = true := by
  have unreserved : Allowed.unreserved.contains byte = true :=
    Text.Utf8.forall_byte
      (motive := fun byte => isHexDigit byte = true → isUnreserved byte = true)
      (by decide +kernel) byte digit
  cases allowed with
  | unreserved => exact unreserved
  | unreservedAndReserved => exact contains_reserved_of_contains .unreserved unreserved

theorem lt_of_isUnreserved {byte : UInt8} (unreserved : isUnreserved byte = true) :
    byte < 0x80 :=
  Text.Utf8.forall_byte (motive := fun byte => isUnreserved byte = true → byte < 0x80)
    (by decide +kernel) byte unreserved

theorem lt_of_isReserved {byte : UInt8} (reserved : isReserved byte = true) : byte < 0x80 := by
  have ascii : ":/?#[]@!$&'()*+,;=".toList.all (·.toNat < 0x80) = true := by decide
  exact of_decide_eq_true (List.all_eq_true.mp ascii _ (List.contains_iff_mem.mp reserved))

theorem lt_of_contains {byte : UInt8}
    (contained : Allowed.unreservedAndReserved.contains byte = true) : byte < 0x80 :=
  (Bool.or_eq_true_iff.mp contained).elim lt_of_isUnreserved lt_of_isReserved

theorem contains_of_areFinished {bytes : List UInt8} (finished : AreFinished bytes) :
    ∀ byte ∈ bytes, Allowed.unreservedAndReserved.contains byte = true ∨ byte = 0x25 := by
  induction bytes with
  | nil => simp
  | cons first rest inductionHypothesis =>
      intro byte membership
      rcases List.mem_cons.mp membership with rfl | inRest
      · exact finished.1.imp_right And.left
      · exact inductionHypothesis finished.2 byte inRest

theorem ascii_of_isFinished {text : List Char} (finished : IsFinished text) :
    ∀ c ∈ text, c.toNat < 0x80 := by
  apply Text.Utf8.ascii_of_encode
  intro byte membership
  rcases contains_of_areFinished finished byte membership with contained | rfl
  · exact lt_of_contains contained
  · decide

theorem contains_of_isFinished {text : List Char} (finished : IsFinished text) :
    ∀ c ∈ text, Allowed.unreservedAndReserved.contains c.toUInt8 = true ∨ c = '%' := by
  intro c membership
  have ascii := ascii_of_isFinished finished c membership
  refine (contains_of_areFinished finished _
    (Text.Utf8.toUInt8_mem_encode ascii membership)).imp_right fun percent => ?_
  rw [← Text.Utf8.ofUInt8_toUInt8 ascii, percent]
  rfl

@[simp]
theorem isFinished_nil : IsFinished [] := trivial

theorem isFinished_append {left right : List Char} (leftFinished : IsFinished left)
    (rightFinished : IsFinished right) : IsFinished (left ++ right) := by
  unfold IsFinished
  rw [Text.Utf8.encode_append]
  exact areFinished_append leftFinished rightFinished

/-- A text stays finished with a further character in front, if that may stand by itself
or starts an escape. -/
theorem isFinished_cons {c : Char} {rest : List Char} (ascii : c.toNat < 0x80)
    (allowed : Allowed.unreservedAndReserved.contains c.toUInt8 = true ∨
      c.toUInt8 = 0x25 ∧ startsWithHexPair (Text.Utf8.encode rest) = true)
    (finished : IsFinished rest) : IsFinished (c :: rest) := by
  unfold IsFinished
  rw [Text.Utf8.encode_cons_of_ascii ascii]
  exact ⟨allowed, finished⟩

/-- A property of the digits of a byte is one of sixteen numbers. -/
theorem forall_digit {motive : UInt8 → Prop}
    (checked : ∀ number < 16, motive (UInt8.ofNat number)) {digit : UInt8}
    (small : digit < 16) : motive digit := by
  simpa using checked digit.toNat small

theorem highDigit_lt (byte : UInt8) : byte / 16 < 16 := by
  rw [UInt8.lt_iff_toNat_lt, UInt8.toNat_div]
  exact Nat.div_lt_of_lt_mul byte.toNat_lt

theorem lowDigit_lt (byte : UInt8) : byte % 16 < 16 := by
  rw [UInt8.lt_iff_toNat_lt, UInt8.toNat_mod]
  exact Nat.mod_lt _ (by decide)

theorem isHexDigit_hexDigit {number : UInt8} (small : number < 16) :
    isHexDigit (hexDigit number).toUInt8 = true :=
  forall_digit (motive := fun number => isHexDigit (hexDigit number).toUInt8 = true)
    (by decide) small

theorem toNat_hexDigit_lt {number : UInt8} (small : number < 16) :
    (hexDigit number).toNat < 0x80 :=
  forall_digit (motive := fun number => (hexDigit number).toNat < 0x80) (by decide) small

theorem encode_escape (byte : UInt8) :
    Text.Utf8.encode (escape byte) =
      [0x25, (hexDigit (byte / 16)).toUInt8, (hexDigit (byte % 16)).toUInt8] := by
  rw [escape, Text.Utf8.encode_cons_of_ascii (by decide),
    Text.Utf8.encode_cons_of_ascii (toNat_hexDigit_lt (highDigit_lt byte)),
    Text.Utf8.encode_cons_of_ascii (toNat_hexDigit_lt (lowDigit_lt byte))]
  rfl

theorem isHexDigit_escape (byte : UInt8) :
    isHexDigit (hexDigit (byte / 16)).toUInt8 = true ∧
      isHexDigit (hexDigit (byte % 16)).toUInt8 = true :=
  ⟨isHexDigit_hexDigit (highDigit_lt byte), isHexDigit_hexDigit (lowDigit_lt byte)⟩

theorem isFinished_escape (byte : UInt8) : IsFinished (escape byte) := by
  obtain ⟨high, low⟩ := isHexDigit_escape byte
  unfold IsFinished
  rw [encode_escape]
  refine ⟨.inr ⟨rfl, Bool.and_eq_true_iff.mpr ⟨high, low⟩⟩, ?_⟩
  exact ⟨.inl (contains_of_isHexDigit _ high), .inl (contains_of_isHexDigit _ low), trivial⟩

end Percent

namespace Allowed

open Percent

theorem encodeBytes_cons (allowed : Allowed) (byte : UInt8) (rest : List UInt8) :
    allowed.encodeBytes (byte :: rest) =
      allowed.encodeByte byte rest ++ allowed.encodeBytes rest := by
  -- The fold carries the bytes it has passed along with their encoding.
  have carried : ∀ bytes : List UInt8,
      bytes.foldr (fun byte passed =>
        (byte :: passed.1, allowed.encodeByte byte passed.1 ++ passed.2)) ([], []) =
          (bytes, allowed.encodeBytes bytes) := by
    intro bytes
    refine Prod.ext ?_ rfl
    induction bytes with
    | nil => rfl
    | cons byte rest inductionHypothesis =>
        rw [List.foldr_cons, Prod.ext inductionHypothesis rfl]
  have step := congrArg Prod.snd (carried (byte :: rest))
  rw [List.foldr_cons, carried rest] at step
  exact step.symm

theorem encodeByte_of_contains (allowed : Allowed) {byte : UInt8} (rest : List UInt8)
    (contained : allowed.contains byte = true) :
    allowed.encodeByte byte rest = [Char.ofUInt8 byte] := by
  simp [encodeByte, keeps, contained]

theorem encodeByte_ne_nil (allowed : Allowed) (byte : UInt8) (rest : List UInt8) :
    allowed.encodeByte byte rest ≠ [] := by
  unfold encodeByte
  split
  · exact List.cons_ne_nil _ _
  · exact List.cons_ne_nil _ _

theorem keeps_eq_true_iff {allowed : Allowed} {byte : UInt8} {rest : List UInt8} :
    allowed.keeps byte rest = true ↔
      allowed.contains byte = true ∨
        allowed = unreservedAndReserved ∧ byte = 0x25 ∧ startsWithHexPair rest = true := by
  simp [keeps, and_assoc]

/-- Encoding leaves finished bytes as they are. -/
theorem encodeBytes_of_areFinished {bytes : List UInt8} (finished : AreFinished bytes) :
    unreservedAndReserved.encodeBytes bytes = bytes.map Char.ofUInt8 := by
  induction bytes with
  | nil => rfl
  | cons byte rest inductionHypothesis =>
      have kept : unreservedAndReserved.keeps byte rest = true :=
        keeps_eq_true_iff.mpr (finished.1.imp_right fun escaped => ⟨rfl, escaped⟩)
      rw [encodeBytes_cons, encodeByte, if_pos kept, inductionHypothesis finished.2]
      rfl

/-- A kept escape stays one, as its digits are copied behind it. -/
theorem startsWithHexPair_encodeBytes (allowed : Allowed) {bytes : List UInt8}
    (found : startsWithHexPair bytes = true) :
    startsWithHexPair (Text.Utf8.encode (allowed.encodeBytes bytes)) = true := by
  match bytes, found with
  | high :: low :: later, found =>
      obtain ⟨highDigit, lowDigit⟩ := Bool.and_eq_true_iff.mp found
      have highContained := contains_of_isHexDigit allowed highDigit
      have lowContained := contains_of_isHexDigit allowed lowDigit
      have highAscii := lt_of_contains (contains_reserved_of_contains allowed highContained)
      have lowAscii := lt_of_contains (contains_reserved_of_contains allowed lowContained)
      rw [encodeBytes_cons, encodeByte_of_contains allowed _ highContained, encodeBytes_cons,
        encodeByte_of_contains allowed _ lowContained, List.cons_append, List.nil_append,
        Text.Utf8.encode_cons_of_ascii (Text.Utf8.toNat_ofUInt8_lt highAscii),
        List.cons_append,
        Text.Utf8.encode_cons_of_ascii (Text.Utf8.toNat_ofUInt8_lt lowAscii),
        Text.Utf8.toUInt8_ofUInt8, Text.Utf8.toUInt8_ofUInt8]
      exact found

/-- Whatever bytes are encoded, the result is finished. -/
theorem isFinished_encodeBytes (allowed : Allowed) (bytes : List UInt8) :
    IsFinished (allowed.encodeBytes bytes) := by
  induction bytes with
  | nil => trivial
  | cons byte rest inductionHypothesis =>
      rw [encodeBytes_cons, encodeByte]
      split
      next kept =>
        obtain contained | escaped := keeps_eq_true_iff.mp kept
        · have reserved := contains_reserved_of_contains allowed contained
          refine isFinished_cons (Text.Utf8.toNat_ofUInt8_lt (lt_of_contains reserved))
            (.inl ?_) inductionHypothesis
          rwa [Text.Utf8.toUInt8_ofUInt8]
        · obtain ⟨-, rfl, digits⟩ := escaped
          exact isFinished_cons (by decide)
            (.inr ⟨rfl, startsWithHexPair_encodeBytes allowed digits⟩) inductionHypothesis
      next => exact isFinished_append (isFinished_escape byte) inductionHypothesis

@[simp]
theorem encodeChars_nil (allowed : Allowed) : allowed.encodeChars [] = [] := rfl

theorem isFinished_encodeChars (allowed : Allowed) (text : List Char) :
    IsFinished (allowed.encodeChars text) :=
  isFinished_encodeBytes allowed _

/-- Encoding leaves a finished text as it is. -/
theorem encodeChars_of_isFinished {text : List Char} (finished : IsFinished text) :
    unreservedAndReserved.encodeChars text = text := by
  have ascii := ascii_of_isFinished finished
  rw [encodeChars, Text.NormalForm.nfc_of_ascii ascii, encodeBytes_of_areFinished finished,
    Text.Utf8.map_ofUInt8_encode ascii]

theorem encodeChars_ne_nil (allowed : Allowed) {text : List Char} (nonempty : text ≠ []) :
    allowed.encodeChars text ≠ [] := by
  have bytesNonempty := Text.Utf8.encode_ne_nil (Text.NormalForm.nfc_ne_nil nonempty)
  obtain ⟨byte, rest, equality⟩ := List.exists_cons_of_ne_nil bytesNonempty
  rw [encodeChars, equality, encodeBytes_cons]
  exact List.append_ne_nil_of_left_ne_nil (encodeByte_ne_nil allowed byte rest) _

end Allowed

end UriExpansion
