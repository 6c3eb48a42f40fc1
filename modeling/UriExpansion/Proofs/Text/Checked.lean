import UriExpansion.Text.Checked
import UriExpansion.Proofs.Text.Utf8
import Mathlib.Data.List.TakeWhile

/-!
What checked reading does where it meets no fault. A slice is there exactly if both of its
places are between characters and the first one is not behind the second, so a place is
always given by the text in front of it; and a loop is followed round by round.
-/

namespace UriExpansion.Text.Checked

open Utf8 (size size_cons size_append)

variable {ε σ : Type}

theorem size_pos {text : List Char} (nonempty : text ≠ []) : 0 < size text := by
  obtain ⟨c, rest, rfl⟩ := List.exists_cons_of_ne_nil nonempty
  rw [size_cons]
  exact Nat.add_pos_left c.utf8Size_pos _

theorem splitBytes?_append (front behind : List Char) :
    splitBytes? (size front) (front ++ behind) = some (front, behind) := by
  induction front with
  | nil => cases behind <;> exact if_pos rfl
  | cons c front inductionHypothesis =>
      have positive := c.utf8Size_pos
      rw [List.cons_append, splitBytes?, size_cons, if_neg (by omega), if_pos (by omega),
        Nat.add_sub_cancel_left, inductionHypothesis]
      rfl

theorem of_splitBytes?_eq_some {count : Nat} {text front behind : List Char}
    (taken : splitBytes? count text = some (front, behind)) :
    text = front ++ behind ∧ size front = count := by
  induction text generalizing count front behind with
  | nil =>
      rw [splitBytes?] at taken
      split at taken
      next atEnd =>
        cases taken
        exact ⟨rfl, atEnd.symm⟩
      next => cases taken
  | cons c rest inductionHypothesis =>
      rw [splitBytes?] at taken
      split at taken
      next atStart =>
        cases taken
        exact ⟨rfl, atStart.symm⟩
      next =>
        split at taken
        next fits =>
          obtain ⟨⟨later, remaining⟩, laterTaken, equality⟩ := Option.map_eq_some_iff.mp taken
          cases equality
          obtain ⟨rfl, counted⟩ := inductionHypothesis laterTaken
          refine ⟨rfl, ?_⟩
          rw [size_cons, counted]
          omega
        next => cases taken

/-- There is a slice between two places exactly if each of them is the end of some text in
front of it, and then it is what stands in between. -/
theorem slice_eq_ok_iff {text part : List Char} {start stop : Nat} :
    (slice text start stop : Checked ε (List Char)) = .ok part ↔
      ∃ front behind, text = front ++ (part ++ behind) ∧ start = size front ∧
        stop = size front + size part := by
  constructor
  · intro found
    unfold slice at found
    split at found
    · cases found
    next inFront behind taken =>
      split at found
      · cases found
      next front part taken' =>
        cases found
        obtain ⟨rfl, rfl⟩ := of_splitBytes?_eq_some taken
        obtain ⟨rfl, rfl⟩ := of_splitBytes?_eq_some taken'
        exact ⟨front, behind, List.append_assoc _ _ _, rfl, size_append front part⟩
  · rintro ⟨front, behind, rfl, rfl, rfl⟩
    unfold slice
    rw [← size_append, ← List.append_assoc, splitBytes?_append]
    simp only [splitBytes?_append]

/-- No slice ends inside a character. -/
example : (slice ['a', 'é'] 1 2 : Checked ε (List Char)) = fault .slice := rfl

theorem slice_append (front part behind : List Char) :
    (slice (front ++ (part ++ behind)) (size front) (size front + size part) :
      Checked ε (List Char)) = .ok part :=
  slice_eq_ok_iff.mpr ⟨front, behind, rfl, rfl, rfl⟩

theorem slice_to_end (front part : List Char) :
    (slice (front ++ part) (size front) (size (front ++ part)) : Checked ε (List Char)) =
      .ok part := by
  have found := slice_append (ε := ε) front part []
  rwa [List.append_nil, ← size_append] at found

theorem find?_eq_none {isSought : Char → Bool} {text : List Char}
    (absent : ∀ c ∈ text, isSought c = false) : find? isSought text = none := by
  apply if_neg
  rw [List.any_eq_true]
  rintro ⟨c, membership, sought⟩
  rw [absent c membership] at sought
  cases sought

theorem find?_append_cons {isSought : Char → Bool} {front : List Char} {c : Char}
    (absent : ∀ d ∈ front, isSought d = false) (sought : isSought c = true) (rest : List Char) :
    find? isSought (front ++ c :: rest) = some (size front) := by
  have found : (front ++ c :: rest).any isSought = true := by simp [sought]
  have before : (front ++ c :: rest).takeWhile (!isSought ·) = front := by
    rw [List.takeWhile_append_of_pos fun d membership => by simp [absent d membership],
      List.takeWhile_cons_of_neg (by simp [sought]), List.append_nil]
  rw [find?, if_pos found, before]

/-- The first character that is not wanted stands behind the wanted ones, and if there is
none, the text ends there. -/
theorem find?_not_getD (isWanted : Char → Bool) (text : List Char) :
    (find? (!isWanted ·) text).getD (size text) = size (text.takeWhile isWanted) := by
  unfold find?
  split
  next => simp only [Bool.not_not, Option.getD_some]
  next absent =>
    have wanted : ∀ c ∈ text, isWanted c = true := by simpa using absent
    rw [Option.getD_none, List.takeWhile_eq_self_iff.mpr wanted]

theorem byteAt_of_getElem? {bytes : List UInt8} {position : Nat} {byte : UInt8}
    (found : bytes[position]? = some byte) :
    (byteAt bytes position : Checked ε UInt8) = .ok byte := by
  rw [byteAt, found]

section Loop

variable {extent : Nat} {position : σ → Nat} {round : σ → Checked ε σ} {state next : σ}

theorem passAll_of_end (atEnd : extent ≤ position state) :
    passAll extent position round state = .ok state := by
  rw [passAll, if_neg (Nat.not_lt.mpr atEnd)]

theorem passAll_of_error {stop : Stop ε} (left : position state < extent)
    (stopped : round state = .error stop) :
    passAll extent position round state = .error stop := by
  rw [passAll, if_pos left]
  simp only [stopped]

theorem passAll_of_ok (left : position state < extent) (passed : round state = .ok next)
    (forward : position state < position next) (inside : position next ≤ extent) :
    passAll extent position round state = passAll extent position round next := by
  rw [passAll.eq_def extent position round state, if_pos left]
  simp only [passed, if_pos (And.intro forward inside)]

end Loop

end UriExpansion.Text.Checked
