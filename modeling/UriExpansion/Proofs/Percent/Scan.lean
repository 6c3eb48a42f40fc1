import UriExpansion.Percent.Runs
import UriExpansion.Proofs.Percent.Decoding

/-!
Encoding as a scan over bytes. The reference reads the bytes of a text in normal form from
left to right and decides about one byte or one escape at a time. Encoding by bytes that
know what follows them and encoding in runs both write what the scan writes; for the runs
the invariant is that what is written, what is under way and the scan of what is ahead
make up the scan of everything.
-/

namespace UriExpansion.Percent

/-- The bytes that are encoded, those of the text in normal form C. -/
def normalBytes (text : String) : List UInt8 :=
  Text.Utf8.encode (Text.NormalForm.nfc text.toList)

def upperHexDigits : List Char :=
  "0123456789ABCDEF".toList

def upperEscape (byte : UInt8) : List Char :=
  ['%', upperHexDigits.getD (byte.toNat / 16) '0', upperHexDigits.getD (byte.toNat % 16) '0']

/-- Copy a byte that may stand in the output, and escape any other. -/
def scanByte (allowed : Allowed) (byte : UInt8) : List Char :=
  if allowed.contains byte then [Char.ofUInt8 byte] else upperEscape byte

/-- Scan bytes from left to right, copying each `%` that two hexadecimal digits follow
together with these. -/
def scan : List UInt8 → List Char
  | byte :: high :: low :: rest =>
      if byte = 0x25 && isHexDigit high && isHexDigit low then
        '%' :: Char.ofUInt8 high :: Char.ofUInt8 low :: scan rest
      else scanByte .unreservedAndReserved byte ++ scan (high :: low :: rest)
  | byte :: rest => scanByte .unreservedAndReserved byte ++ scan rest
  | [] => []

theorem getD_upperHexDigits {number : UInt8} (small : number < 16) :
    upperHexDigits.getD number.toNat '0' = hexDigit number :=
  forall_digit (motive := fun number => upperHexDigits.getD number.toNat '0' = hexDigit number)
    (by decide) small

theorem upperEscape_eq_escape (byte : UInt8) : upperEscape byte = escape byte := by
  rw [escape, ← getD_upperHexDigits (highDigit_lt byte), ← getD_upperHexDigits (lowDigit_lt byte),
    UInt8.toNat_div, UInt8.toNat_mod]
  rfl

/-- The marks of a run are the unreserved ones in front of the reserved characters. -/
theorem runMarks_eq : runMarks = ['-', '.', '_', '~'] ++ ":/?#[]@!$&'()*+,;=".toList := by
  decide

theorem isEscapedInRun_eq_not_contains (byte : UInt8) :
    isEscapedInRun byte = !Allowed.unreservedAndReserved.contains byte := by
  rw [isEscapedInRun, runMarks_eq]
  simp only [Allowed.contains, isUnreserved, isReserved, List.cons_append, List.nil_append,
    List.contains_cons, Bool.or_assoc]
  rfl

theorem exists_of_startsWithEscape {bytes : List UInt8}
    (found : startsWithEscape bytes = true) :
    ∃ high low rest, bytes = 0x25 :: high :: low :: rest ∧
      isHexDigit high = true ∧ isHexDigit low = true := by
  match bytes with
  | [] => cases found
  | [byte] => simp [startsWithEscape, startsWithHexPair] at found
  | [byte, high] => simp [startsWithEscape, startsWithHexPair] at found
  | byte :: high :: low :: rest =>
      simp only [startsWithEscape, startsWithHexPair, Bool.and_eq_true, decide_eq_true_eq] at found
      obtain ⟨rfl, highDigit, lowDigit⟩ := found
      exact ⟨high, low, rest, rfl, highDigit, lowDigit⟩

/-- Bytes are taken apart from left to right, escape by escape and, where no escape starts,
byte by byte. -/
theorem escape_induction {motive : List UInt8 → Prop} (nil : motive [])
    (escape : ∀ {high low rest}, isHexDigit high = true → isHexDigit low = true →
      motive rest → motive (0x25 :: high :: low :: rest))
    (plain : ∀ {byte rest}, startsWithEscape (byte :: rest) = false →
      motive rest → motive (byte :: rest))
    (bytes : List UInt8) : motive bytes := by
  induction bytes using scan.induct with
  | case1 byte high low rest found inductionHypothesis =>
      simp only [Bool.and_eq_true, decide_eq_true_eq] at found
      obtain ⟨⟨rfl, highDigit⟩, lowDigit⟩ := found
      exact escape highDigit lowDigit inductionHypothesis
  | case2 byte high low rest notFound inductionHypothesis =>
      refine plain ?_ inductionHypothesis
      rw [startsWithEscape, startsWithHexPair, ← Bool.and_assoc]
      exact Bool.eq_false_iff.mpr notFound
  | case3 byte rest short inductionHypothesis =>
      refine plain ?_ inductionHypothesis
      match rest, short with
      | [], _ | [_], _ => simp [startsWithEscape, startsWithHexPair]
      | high :: low :: later, short => exact absurd rfl (short high low later)
  | case4 => exact nil

theorem scan_cons_cons_cons (byte high low : UInt8) (rest : List UInt8) :
    scan (byte :: high :: low :: rest) =
      if byte = 0x25 && isHexDigit high && isHexDigit low then
        '%' :: Char.ofUInt8 high :: Char.ofUInt8 low :: scan rest
      else scanByte .unreservedAndReserved byte ++ scan (high :: low :: rest) :=
  rfl

theorem scan_escape {high low : UInt8} (highDigit : isHexDigit high = true)
    (lowDigit : isHexDigit low = true) (rest : List UInt8) :
    scan (0x25 :: high :: low :: rest) =
      '%' :: Char.ofUInt8 high :: Char.ofUInt8 low :: scan rest := by
  rw [scan_cons_cons_cons, if_pos]
  simp [highDigit, lowDigit]

/-- Where no escape starts, the scan decides about one byte. -/
theorem scan_cons {byte : UInt8} {rest : List UInt8}
    (noEscape : startsWithEscape (byte :: rest) = false) :
    scan (byte :: rest) = scanByte .unreservedAndReserved byte ++ scan rest := by
  match rest with
  | [] => rfl
  | [high] => rfl
  | high :: low :: later =>
      rw [scan_cons_cons_cons, if_neg]
      intro escape
      simp only [startsWithEscape, startsWithHexPair] at noEscape
      rw [← Bool.and_assoc, escape] at noEscape
      cases noEscape

theorem encodeRun_append (run further : List UInt8) :
    encodeRun (run ++ further) = encodeRun run ++ encodeRun further :=
  List.flatMap_append

theorem encodeRun_singleton (byte : UInt8) :
    encodeRun [byte] = scanByte .unreservedAndReserved byte := by
  rw [encodeRun, List.flatMap_singleton, isEscapedInRun_eq_not_contains, scanByte,
    upperEscape_eq_escape]
  cases Allowed.unreservedAndReserved.contains byte <;> rfl

namespace RunEncoder

/-- The encoder has not gone too far, and what it has written, what it still has to write
and the scan of what it has not looked at make up the scan of all bytes. -/
structure Tracks (bytes : List UInt8) (encoder : RunEncoder) : Prop where
  ordered : encoder.runStart ≤ encoder.position
  inside : encoder.position ≤ bytes.length
  written : encoder.output ++ encodeRun (encoder.run bytes)
    ++ scan (bytes.drop encoder.position) = scan bytes

theorem tracks_start (bytes : List UInt8) : Tracks bytes start where
  ordered := Nat.le_refl _
  inside := Nat.zero_le _
  written := by simp [start, run, encodeRun]

theorem Tracks.step_of_escape {bytes : List UInt8} {encoder : RunEncoder}
    (tracks : encoder.Tracks bytes)
    (found : startsWithEscape (bytes.drop encoder.position) = true) :
    (encoder.step bytes).Tracks bytes := by
  obtain ⟨high, low, rest, ahead, highDigit, lowDigit⟩ := exists_of_startsWithEscape found
  have behind : bytes.drop (encoder.position + 3) = rest := by
    rw [← List.drop_drop, ahead]
    rfl
  have longEnough : encoder.position + 3 ≤ bytes.length := by
    have length := congrArg List.length ahead
    simp only [List.length_drop, List.length_cons] at length
    omega
  have written := tracks.written
  rw [ahead, scan_escape highDigit lowDigit] at written
  unfold step
  simp only [if_pos found]
  refine ⟨Nat.le_refl _, longEnough, ?_⟩
  simp only [run, behind, ahead]
  rw [← written, List.drop_take_self]
  simp [encodeRun]
  rfl

theorem Tracks.step_of_noEscape {bytes : List UInt8} {encoder : RunEncoder}
    (tracks : encoder.Tracks bytes) (left : encoder.position < bytes.length)
    (noEscape : startsWithEscape (bytes.drop encoder.position) = false) :
    (encoder.step bytes).Tracks bytes := by
  have ahead := List.drop_eq_getElem_cons left
  have longer : (bytes.take (encoder.position + 1)).drop encoder.runStart =
      encoder.run bytes ++ [bytes[encoder.position]] := by
    rw [List.take_add_one, List.getElem?_eq_getElem left, Option.toList_some,
      List.drop_append_of_le_length]
    · rfl
    · rw [List.length_take, Nat.min_eq_left tracks.inside]
      exact tracks.ordered
  have written := tracks.written
  rw [ahead] at noEscape written
  rw [scan_cons noEscape, ← encodeRun_singleton] at written
  unfold step
  rw [ahead]
  simp only [noEscape, Bool.false_eq_true, if_false]
  refine ⟨Nat.le_succ_of_le tracks.ordered, left, ?_⟩
  rw [run, longer, encodeRun_append, ← written]
  simp only [List.append_assoc]

theorem Tracks.step {bytes : List UInt8} {encoder : RunEncoder}
    (tracks : encoder.Tracks bytes) (left : encoder.position < bytes.length) :
    (encoder.step bytes).Tracks bytes := by
  cases found : startsWithEscape (bytes.drop encoder.position) with
  | true => exact tracks.step_of_escape found
  | false => exact tracks.step_of_noEscape left found

theorem Tracks.passAll {bytes : List UInt8} {encoder : RunEncoder}
    (tracks : encoder.Tracks bytes) :
    (encoder.passAll bytes).Tracks bytes ∧
      bytes.length ≤ (encoder.passAll bytes).position := by
  fun_induction RunEncoder.passAll bytes encoder with
  | case1 encoder left inductionHypothesis => exact inductionHypothesis (tracks.step left)
  | case2 encoder atEnd => exact ⟨tracks, Nat.le_of_not_lt atEnd⟩

/-- At the end nothing is ahead. -/
theorem Tracks.finish_eq {bytes : List UInt8} {encoder : RunEncoder}
    (tracks : encoder.Tracks bytes) (atEnd : bytes.length ≤ encoder.position) :
    encoder.finish bytes = scan bytes := by
  rw [← tracks.written, List.drop_eq_nil_of_le atEnd, run, List.take_of_length_le atEnd, finish]
  exact (List.append_nil _).symm

end RunEncoder

theorem encodeRuns_eq_scan (bytes : List UInt8) : encodeRuns bytes = scan bytes := by
  obtain ⟨tracks, atEnd⟩ := (RunEncoder.tracks_start bytes).passAll
  exact tracks.finish_eq atEnd

end UriExpansion.Percent

namespace UriExpansion.Allowed

open Percent

theorem encodeByte_of_startsWithEscape {byte : UInt8} {rest : List UInt8}
    (found : startsWithEscape (byte :: rest) = true) :
    unreservedAndReserved.encodeByte byte rest = ['%'] := by
  simp only [startsWithEscape, Bool.and_eq_true, decide_eq_true_eq] at found
  obtain ⟨rfl, digits⟩ := found
  rw [encodeByte, if_pos (keeps_eq_true_iff.mpr (.inr ⟨rfl, rfl, digits⟩))]
  rfl

theorem encodeByte_eq_scanByte {byte : UInt8} {rest : List UInt8}
    (noEscape : startsWithEscape (byte :: rest) = false) :
    unreservedAndReserved.encodeByte byte rest = scanByte unreservedAndReserved byte := by
  have alone : unreservedAndReserved.keeps byte rest = unreservedAndReserved.contains byte := by
    simp only [startsWithEscape] at noEscape
    simp [keeps, noEscape]
  rw [encodeByte, alone, scanByte, upperEscape_eq_escape]

theorem encodeBytes_eq_scan (bytes : List UInt8) :
    unreservedAndReserved.encodeBytes bytes = scan bytes := by
  refine escape_induction (motive := fun bytes => unreservedAndReserved.encodeBytes bytes =
    scan bytes) rfl ?escape ?plain bytes
  case escape =>
    intro high low rest highDigit lowDigit inductionHypothesis
    have found : startsWithEscape (0x25 :: high :: low :: rest) = true := by
      simp [startsWithEscape, startsWithHexPair, highDigit, lowDigit]
    rw [encodeBytes_cons, encodeByte_of_startsWithEscape found, encodeBytes_cons,
      encodeByte_of_contains _ _ (contains_of_isHexDigit _ highDigit), encodeBytes_cons,
      encodeByte_of_contains _ _ (contains_of_isHexDigit _ lowDigit), inductionHypothesis,
      scan_escape highDigit lowDigit]
    rfl
  case plain =>
    intro byte rest noEscape inductionHypothesis
    rw [encodeBytes_cons, encodeByte_eq_scanByte noEscape, inductionHypothesis,
      scan_cons noEscape]

/-- Encoding is a scan of the bytes in normal form, byte by byte where only unreserved
characters may stand and escape by escape elsewhere, and it may be done in runs. -/
theorem encode_eq_scan (text : String) :
    (unreserved.encode text).toList = (normalBytes text).flatMap (scanByte unreserved) ∧
      (unreservedAndReserved.encode text).toList = scan (normalBytes text) ∧
      encodeRuns (normalBytes text) = scan (normalBytes text) ∧
      ∀ byte, isEscapedInRun byte = !unreservedAndReserved.contains byte := by
  refine ⟨?_, ?_, encodeRuns_eq_scan _, isEscapedInRun_eq_not_contains⟩
  · have perByte : scanByte unreserved =
        fun byte => if isUnreserved byte then [Char.ofUInt8 byte] else escape byte := by
      funext byte
      rw [scanByte, upperEscape_eq_escape]
      rfl
    rw [encode, String.toList_ofList, encodeChars, encodeBytes_unreserved, perByte]
    rfl
  · rw [encode, String.toList_ofList, encodeChars, encodeBytes_eq_scan]
    rfl

example : unreservedAndReserved.encode "%%20%2%41ä" = "%25%20%252%41%C3%A4" := by decide +kernel

end UriExpansion.Allowed
