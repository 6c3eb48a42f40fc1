import UriExpansion.Percent.CheckedRuns
import UriExpansion.Proofs.Percent.Scan
import UriExpansion.Proofs.Text.Checked

/-!
Encoding in runs meets no fault. A byte of ASCII is a character of its own, so the place in
front of an escape is between two characters, and so is the place behind it; the invariant is
that the run under way starts at such a place.
-/

namespace UriExpansion.Text.Utf8

theorem length_encode (text : List Char) : (encode text).length = size text := by
  induction text with
  | nil => rfl
  | cons c rest inductionHypothesis =>
      rw [encode_cons, List.length_append, String.length_utf8EncodeChar, inductionHypothesis,
        size_cons]

theorem encode_eq_map {text : List Char} (ascii : ∀ c ∈ text, c.toNat < 0x80) :
    encode text = text.map Char.toUInt8 := by
  induction text with
  | nil => rfl
  | cons c rest inductionHypothesis =>
      rw [encode_cons_of_ascii (ascii c List.mem_cons_self), List.map_cons,
        inductionHypothesis fun d membership => ascii d (List.mem_cons_of_mem _ membership)]

theorem eq_of_toUInt8_eq {c d : Char} (ascii : c.toNat < 0x80) (ascii' : d.toNat < 0x80)
    (same : c.toUInt8 = d.toUInt8) : c = d := by
  rw [← ofUInt8_toUInt8 ascii, same, ofUInt8_toUInt8 ascii']

/-- A byte of ASCII is found only in front of a character, and it is that character. -/
theorem exists_of_drop_encode {text : List Char} {position : Nat} {byte : UInt8}
    {later : List UInt8} (found : (encode text).drop position = byte :: later)
    (ascii : byte < 0x80) :
    ∃ front behind, text = front ++ Char.ofUInt8 byte :: behind ∧ size front = position ∧
      encode behind = later := by
  induction text generalizing position with
  | nil =>
      rw [show encode [] = [] from rfl, List.drop_nil] at found
      cases found
  | cons c rest inductionHypothesis =>
      rw [encode_cons, List.drop_append] at found
      by_cases inside : position < (String.utf8EncodeChar c).length
      · rw [Nat.sub_eq_zero_of_le (Nat.le_of_lt inside), List.drop_zero,
          List.drop_eq_getElem_cons inside, List.cons_append] at found
        obtain ⟨isByte, isLater⟩ := List.cons.inj found
        have narrow : c.toNat < 0x80 := by
          apply Nat.lt_of_not_le
          intro wide
          have inCharacter : byte ∈ String.utf8EncodeChar c := isByte ▸ List.getElem_mem inside
          exact UInt8.not_lt.mpr (le_of_mem_utf8EncodeChar wide inCharacter) ascii
        have alone := utf8EncodeChar_of_ascii narrow
        have atStart : position = 0 := by
          rw [alone] at inside
          exact Nat.lt_one_iff.mp inside
        subst atStart
        simp only [alone, List.getElem_cons_zero] at isByte
        rw [alone] at isLater
        exact ⟨[], rest, by rw [← isByte, ofUInt8_toUInt8 narrow]; rfl, rfl, isLater⟩
      · have outside := Nat.not_lt.mp inside
        rw [List.drop_eq_nil_of_le outside, List.nil_append] at found
        obtain ⟨front, behind, rfl, counted, encoded⟩ := inductionHypothesis found
        refine ⟨c :: front, behind, rfl, ?_, encoded⟩
        rw [String.length_utf8EncodeChar] at outside counted
        rw [size_cons, counted]
        omega

theorem exists_cons_of_encode {text : List Char} {byte : UInt8} {later : List UInt8}
    (found : encode text = byte :: later) (ascii : byte < 0x80) :
    ∃ behind, text = Char.ofUInt8 byte :: behind ∧ encode behind = later := by
  have foundAtStart : (encode text).drop 0 = byte :: later := found
  obtain ⟨front, behind, rfl, counted, encoded⟩ := exists_of_drop_encode foundAtStart ascii
  cases front with
  | nil => exact ⟨behind, rfl, encoded⟩
  | cons c front =>
      have positive := c.utf8Size_pos
      rw [size_cons] at counted
      omega

end UriExpansion.Text.Utf8

namespace UriExpansion.Percent

open Text Text.Checked

variable {ε : Type}

theorem lt_of_isHexDigit {byte : UInt8} (digit : isHexDigit byte = true) : byte < 0x80 :=
  lt_of_contains (contains_of_isHexDigit .unreservedAndReserved digit)

/-- Where an escape starts in the bytes of a text, it stands in the text. -/
theorem exists_escape_of_drop {text : List Char} {position : Nat}
    (found : startsWithEscape ((Utf8.encode text).drop position) = true) :
    ∃ run escape behind, text = run ++ (escape ++ behind) ∧ Utf8.size run = position ∧
      Utf8.size escape = 3 ∧
      escape = (((Utf8.encode text).drop position).take 3).map Char.ofUInt8 := by
  obtain ⟨high, low, later, ahead, highDigit, lowDigit⟩ := exists_of_startsWithEscape found
  have highAscii := lt_of_isHexDigit highDigit
  have lowAscii := lt_of_isHexDigit lowDigit
  obtain ⟨run, fromHigh, rfl, counted, encoded⟩ := Utf8.exists_of_drop_encode ahead (by decide)
  obtain ⟨fromLow, rfl, encoded'⟩ := Utf8.exists_cons_of_encode encoded highAscii
  obtain ⟨behind, rfl, -⟩ := Utf8.exists_cons_of_encode encoded' lowAscii
  have ascii : ∀ c ∈ ['%', Char.ofUInt8 high, Char.ofUInt8 low], c.toNat < 0x80 := by
    simp [Utf8.toNat_ofUInt8_lt, highAscii, lowAscii]
  refine ⟨run, ['%', Char.ofUInt8 high, Char.ofUInt8 low], behind, rfl, counted, ?_, ?_⟩
  · rw [← Utf8.length_encode, ← List.length_map Char.ofUInt8, Utf8.map_ofUInt8_encode ascii]
    rfl
  · rw [ahead]
    rfl

namespace RunEncoder

/-- The run under way starts between two characters, and the byte that is looked at next is
behind that place and not behind the end. -/
structure IsPlaced (text : List Char) (encoder : RunEncoder) : Prop where
  started : ∃ front behind, text = front ++ behind ∧ encoder.runStart = Utf8.size front
  ordered : encoder.runStart ≤ encoder.position
  inside : encoder.position ≤ Utf8.size text

theorem isPlaced_start (text : List Char) : start.IsPlaced text where
  started := ⟨[], text, rfl, rfl⟩
  ordered := Nat.le_refl _
  inside := Nat.zero_le _

/-- The escape in front of which a run has come to its end. -/
theorem IsPlaced.exists_escape {text : List Char} {encoder : RunEncoder}
    (placed : encoder.IsPlaced text)
    (found : startsWithEscape ((Utf8.encode text).drop encoder.position) = true) :
    ∃ front run escape behind, text = front ++ (run ++ (escape ++ behind)) ∧
      encoder.runStart = Utf8.size front ∧
      encoder.position = Utf8.size front + Utf8.size run ∧ Utf8.size escape = 3 ∧
      escape = (((Utf8.encode text).drop encoder.position).take 3).map Char.ofUInt8 := by
  obtain ⟨front, rest, rfl, startsBehind⟩ := placed.started
  have ordered := placed.ordered
  -- What is in front of the run does not count, so the escape is sought behind it.
  have behindFront : (Utf8.encode (front ++ rest)).drop encoder.position =
      (Utf8.encode rest).drop (encoder.position - Utf8.size front) := by
    rw [Utf8.encode_append, List.drop_append, Utf8.length_encode, List.drop_eq_nil_of_le,
      List.nil_append]
    rw [Utf8.length_encode]
    omega
  rw [behindFront] at found ⊢
  obtain ⟨run, escape, behind, rfl, counted, three, isEscape⟩ := exists_escape_of_drop found
  exact ⟨front, run, escape, behind, rfl, startsBehind, by omega, three, isEscape⟩

theorem run_of_append (front run behind : List Char) {encoder : RunEncoder}
    (startsBehind : encoder.runStart = Utf8.size front)
    (ends : encoder.position = Utf8.size front + Utf8.size run) :
    encoder.run (Utf8.encode (front ++ (run ++ behind))) = Utf8.encode run := by
  have passed : (Utf8.encode (front ++ (run ++ behind))).take encoder.position =
      Utf8.encode (front ++ run) := by
    rw [ends, ← Utf8.size_append, ← Utf8.length_encode, ← List.append_assoc,
      Utf8.encode_append (front ++ run) behind, List.take_left]
  rw [RunEncoder.run, passed, startsBehind, ← Utf8.length_encode, Utf8.encode_append,
    List.drop_left]

theorem IsPlaced.checkedStep_of_escape {text : List Char} {encoder : RunEncoder}
    (placed : encoder.IsPlaced text)
    (found : startsWithEscape ((Utf8.encode text).drop encoder.position) = true) :
    (encoder.checkedStep text : Checked ε RunEncoder) = .ok (encoder.step (Utf8.encode text)) ∧
      (encoder.step (Utf8.encode text)).IsPlaced text := by
  obtain ⟨front, run, escape, behind, split, startsBehind, ends, three, isEscape⟩ :=
    placed.exists_escape found
  have cutRun : (slice text encoder.runStart encoder.position : Checked ε (List Char)) =
      .ok run := by
    rw [split, startsBehind, ends]
    exact slice_append front run _
  have cutEscape : (slice text encoder.position (encoder.position + 3) :
      Checked ε (List Char)) = .ok escape := by
    rw [split, ends, ← three, ← Utf8.size_append, ← List.append_assoc]
    exact slice_append (front ++ run) escape behind
  have isRun : encoder.run (Utf8.encode text) = Utf8.encode run := by
    rw [split]
    exact run_of_append front run _ startsBehind ends
  have stepped : encoder.step (Utf8.encode text) =
      ⟨encoder.output ++ encodeRun (Utf8.encode run) ++ escape, encoder.position + 3,
        encoder.position + 3⟩ := by
    rw [step]
    simp only [if_pos found, isRun, ← isEscape]
  rw [stepped]
  constructor
  · rw [checkedStep, if_pos found, cutRun, cutEscape]
    rfl
  · refine ⟨⟨front ++ (run ++ escape), behind, ?_, ?_⟩, Nat.le_refl _, ?_⟩
    · rw [split]
      simp only [List.append_assoc]
    · rw [Utf8.size_append, Utf8.size_append, three, ends, Nat.add_assoc]
    · rw [split]
      simp only [Utf8.size_append]
      omega

theorem IsPlaced.checkedStep_of_noEscape {text : List Char} {encoder : RunEncoder}
    (placed : encoder.IsPlaced text) (left : encoder.position < Utf8.size text)
    (noEscape : startsWithEscape ((Utf8.encode text).drop encoder.position) = false) :
    (encoder.checkedStep text : Checked ε RunEncoder) = .ok (encoder.step (Utf8.encode text)) ∧
      (encoder.step (Utf8.encode text)).IsPlaced text := by
  have stepped : encoder.step (Utf8.encode text) =
      { encoder with position := encoder.position + 1 } := by
    rw [step]
    simp only [noEscape, Bool.false_eq_true, if_false]
  rw [stepped]
  constructor
  · rw [checkedStep, noEscape]
    rfl
  · exact ⟨placed.started, Nat.le_succ_of_le placed.ordered, left⟩

/-- Looking at all bytes that are left meets no fault and comes to where it comes without
checks. -/
theorem IsPlaced.passAll_checkedStep {text : List Char} {encoder : RunEncoder}
    (placed : encoder.IsPlaced text) :
    (Checked.passAll (Utf8.size text) position (checkedStep text) encoder :
        Checked ε RunEncoder) = .ok (encoder.passAll (Utf8.encode text)) ∧
      (encoder.passAll (Utf8.encode text)).IsPlaced text := by
  fun_induction RunEncoder.passAll (Utf8.encode text) encoder with
  | case1 encoder left inductionHypothesis =>
      rw [Utf8.length_encode] at left
      obtain ⟨passed, placedBehind⟩ :
          (encoder.checkedStep text : Checked ε RunEncoder) =
              .ok (encoder.step (Utf8.encode text)) ∧
            (encoder.step (Utf8.encode text)).IsPlaced text := by
        cases found : startsWithEscape ((Utf8.encode text).drop encoder.position) with
        | true => exact placed.checkedStep_of_escape found
        | false => exact placed.checkedStep_of_noEscape left found
      rw [passAll_of_ok left passed (position_lt_step _ _) placedBehind.inside]
      exact inductionHypothesis placedBehind
  | case2 encoder atEnd =>
      rw [Utf8.length_encode] at atEnd
      exact ⟨passAll_of_end (Nat.not_lt.mp atEnd), placed⟩

theorem IsPlaced.checkedFinish_eq {text : List Char} {encoder : RunEncoder}
    (placed : encoder.IsPlaced text) :
    (encoder.checkedFinish text : Checked ε (List Char)) =
      .ok (encoder.finish (Utf8.encode text)) := by
  obtain ⟨front, behind, rfl, startsBehind⟩ := placed.started
  rw [checkedFinish, finish, startsBehind, slice_to_end, Utf8.encode_append,
    ← Utf8.length_encode, List.drop_left]
  rfl

end RunEncoder

/-- Encoding in runs meets no fault. -/
theorem checkedEncodeRuns_eq (text : List Char) :
    (checkedEncodeRuns text : Checked ε (List Char)) = .ok (encodeRuns (Utf8.encode text)) := by
  obtain ⟨passed, placed⟩ := (RunEncoder.isPlaced_start text).passAll_checkedStep (ε := ε)
  rw [checkedEncodeRuns, passed]
  exact placed.checkedFinish_eq

end UriExpansion.Percent
