import UriExpansion.Template.CheckedReading
import UriExpansion.Proofs.Percent.CheckedRuns
import UriExpansion.Proofs.Template.Name

/-!
Names are judged without a fault. Behind every dot there is another byte, since the last byte
of a name that comes to be judged is no dot, and a kept escape ends inside the name, since its
digits do. On texts without other characters the verdict is that of the grammar.
-/

namespace UriExpansion.VariableName

open Text Text.Checked

variable {ε : Type}

/-- The verdict on what is left of a name whose last byte is no dot. -/
def areAccepted : List UInt8 → Bool
  | [] => true
  | byte :: rest =>
      if byte = percent then
        match rest with
        | high :: low :: later =>
            Percent.isHexDigit high && Percent.isHexDigit low && areAccepted later
        | _ => false
      else if byte = dot then rest.head? ≠ some dot && areAccepted rest
      else areAccepted rest

theorem areAccepted_escape (high low : UInt8) (later : List UInt8) :
    areAccepted (percent :: high :: low :: later) =
      (Percent.isHexDigit high && Percent.isHexDigit low && areAccepted later) := by
  rw [areAccepted, if_pos rfl]

theorem areAccepted_dot (rest : List UInt8) :
    areAccepted (dot :: rest) = (decide (rest.head? ≠ some dot) && areAccepted rest) := by
  rw [areAccepted.eq_def]
  rfl

theorem areAccepted_plain {byte : UInt8} (notPercent : byte ≠ percent) (notDot : byte ≠ dot)
    (rest : List UInt8) : areAccepted (byte :: rest) = areAccepted rest := by
  rw [areAccepted.eq_def]
  simp only [if_neg notPercent, if_neg notDot]

section Round

variable {bytes rest : List UInt8} {position : Nat} {byte : UInt8}

theorem byteAt_of_drop (ahead : bytes.drop position = byte :: rest) :
    (byteAt bytes position : Checked ε UInt8) = .ok byte := by
  apply byteAt_of_getElem?
  rw [← Nat.add_zero position, ← List.getElem?_drop, ahead]
  rfl

theorem checkedRound_of_percent (ahead : bytes.drop position = percent :: rest) :
    checkedRound bytes position =
      if Percent.startsWithEscape (percent :: rest) then .ok (position + 3) else refuse () := by
  rw [checkedRound, byteAt_of_drop ahead, ahead]
  rfl

theorem checkedRound_of_dot {next : UInt8} (ahead : bytes.drop position = dot :: next :: rest) :
    checkedRound bytes position = if next = dot then refuse () else .ok (position + 1) := by
  have behind : bytes.drop (position + 1) = next :: rest := by
    rw [← List.drop_drop, ahead]
    rfl
  rw [checkedRound, byteAt_of_drop ahead]
  simp only [bind, Except.bind]
  rw [byteAt_of_drop behind]
  rfl

theorem checkedRound_of_plain (ahead : bytes.drop position = byte :: rest)
    (notPercent : byte ≠ percent) (notDot : byte ≠ dot) :
    checkedRound bytes position = .ok (position + 1) := by
  rw [checkedRound, byteAt_of_drop ahead]
  simp only [bind, Except.bind]
  rw [if_neg notPercent, if_neg notDot]
  rfl

theorem drop_add {passed : List UInt8} (ahead : bytes.drop position = passed ++ rest) :
    bytes.drop (position + passed.length) = rest := by
  rw [← List.drop_drop, ahead, List.drop_left]

theorem add_le_of_drop {passed : List UInt8} (ahead : bytes.drop position = passed ++ rest)
    (nonempty : passed ≠ []) : position + passed.length ≤ bytes.length := by
  have length := congrArg List.length ahead
  have positive := List.length_pos_iff.mpr nonempty
  rw [List.length_drop, List.length_append] at length
  omega

/-- A round that passes some bytes leaves the verdict to what is behind them. -/
theorem passAll_checkedRound_of_ok {passed : List UInt8}
    (ahead : bytes.drop position = passed ++ rest) (nonempty : passed ≠ [])
    (passes : checkedRound bytes position = .ok (position + passed.length)) :
    passAll bytes.length id (checkedRound bytes) position =
      passAll bytes.length id (checkedRound bytes) (position + passed.length) := by
  have positive := List.length_pos_iff.mpr nonempty
  have inside := add_le_of_drop ahead nonempty
  exact passAll_of_ok (show position < bytes.length by omega) passes
    (Nat.lt_add_of_pos_right positive) inside

theorem passAll_checkedRound_of_refuse (ahead : bytes.drop position = byte :: rest)
    (refused : checkedRound bytes position = refuse ()) :
    passAll bytes.length id (checkedRound bytes) position = refuse () := by
  have ahead' : bytes.drop position = [byte] ++ rest := ahead
  have inside : position < bytes.length := add_le_of_drop ahead' (List.cons_ne_nil _ _)
  exact passAll_of_error (show id position < bytes.length from inside) refused

end Round

/-- A dot that is not the last byte has another byte behind it. -/
theorem exists_behind_dot {bytes rest : List UInt8} {position : Nat}
    (lastNoDot : bytes.getLast? ≠ some dot) (ahead : bytes.drop position = dot :: rest) :
    ∃ next later, rest = next :: later := by
  cases rest with
  | cons next later => exact ⟨next, later, rfl⟩
  | nil =>
      refine absurd ?_ lastNoDot
      rw [← List.take_append_drop position bytes, ahead, List.getLast?_concat]

theorem eq_nil_or_singleton {α : Type} {rest : List α}
    (short : ∀ first second later, rest = first :: second :: later → False) :
    rest = [] ∨ ∃ only, rest = [only] := by
  cases rest with
  | nil => exact .inl rfl
  | cons first behind =>
      cases behind with
      | nil => exact .inr ⟨first, rfl⟩
      | cons second later => exact (short first second later rfl).elim

/-- Judging what is left of a name meets no fault, and comes to the end or to a refusal. -/
theorem passAll_checkedRound {bytes rest : List UInt8} {position : Nat}
    (lastNoDot : bytes.getLast? ≠ some dot) (ahead : bytes.drop position = rest)
    (inside : position ≤ bytes.length) :
    passAll bytes.length id (checkedRound bytes) position =
      if areAccepted rest then .ok bytes.length else refuse () := by
  fun_induction areAccepted rest generalizing position with
  | case1 =>
      have atEnd : position = bytes.length :=
        Nat.le_antisymm inside (List.drop_eq_nil_iff.mp ahead)
      rw [passAll_of_end (Nat.le_of_eq atEnd.symm), atEnd]
      rfl
  | case2 high low later inductionHypothesis =>
      have round := checkedRound_of_percent ahead
      rw [Percent.startsWithEscape, Percent.startsWithHexPair] at round
      cases digits : Percent.isHexDigit high && Percent.isHexDigit low with
      | true =>
          have passes : checkedRound bytes position = .ok (position + 3) := by
            rw [round, digits]
            rfl
          have ahead' : bytes.drop position = [percent, high, low] ++ later := ahead
          rw [passAll_checkedRound_of_ok ahead' (List.cons_ne_nil _ _) passes, Bool.true_and]
          exact inductionHypothesis (drop_add ahead')
            (add_le_of_drop ahead' (List.cons_ne_nil _ _))
      | false =>
          apply passAll_checkedRound_of_refuse ahead
          rw [round, digits]
          rfl
  | case3 rest short =>
      apply passAll_checkedRound_of_refuse ahead
      rw [checkedRound_of_percent ahead]
      rcases eq_nil_or_singleton short with rfl | ⟨_, rfl⟩
      · rfl
      · rfl
  | case4 rest notPercent inductionHypothesis =>
      obtain ⟨next, later, rfl⟩ := exists_behind_dot lastNoDot ahead
      have round := checkedRound_of_dot ahead
      by_cases doubled : next = dot
      · rw [doubled] at ahead round ⊢
        exact passAll_checkedRound_of_refuse ahead (round.trans (if_pos rfl))
      · have ahead' : bytes.drop position = [dot] ++ next :: later := ahead
        rw [passAll_checkedRound_of_ok ahead' (List.cons_ne_nil _ _)
          (round.trans (if_neg doubled)),
          inductionHypothesis (drop_add ahead') (add_le_of_drop ahead' (List.cons_ne_nil _ _))]
        simp [doubled]
  | case5 byte rest notPercent notDot inductionHypothesis =>
      have ahead' : bytes.drop position = [byte] ++ rest := ahead
      rw [passAll_checkedRound_of_ok ahead' (List.cons_ne_nil _ _)
        (checkedRound_of_plain ahead notPercent notDot)]
      exact inductionHypothesis (drop_add ahead') (add_le_of_drop ahead' (List.cons_ne_nil _ _))

/-- Whether a name that holds a byte has neither a dot at its ends nor a fault in between. -/
def isAccepted (name : List Char) : Bool :=
  let bytes := Utf8.encode name
  !bytes.isEmpty && bytes.head? ≠ some dot && bytes.getLast? ≠ some dot && areAccepted bytes

/-- Judging a name meets no fault, whatever characters it has. -/
theorem checkedIsValid_eq_isAccepted (name : List Char) :
    (checkedIsValid name : Checked ε Bool) = .ok (isAccepted name) := by
  unfold checkedIsValid isAccepted
  generalize Utf8.encode name = bytes
  cases bytes with
  | nil => rfl
  | cons first rest =>
      obtain ⟨last, isLast⟩ : ∃ last, (first :: rest).getLast? = some last :=
        ⟨_, List.getLast?_eq_some_getLast (List.cons_ne_nil _ _)⟩
      have firstByte : (byteAt (first :: rest) 0 : Checked ε UInt8) = .ok first := rfl
      have lastByte : (byteAt (first :: rest) ((first :: rest).length - 1) : Checked ε UInt8) =
          .ok last := by
        apply byteAt_of_getElem?
        rw [← List.getLast?_eq_getElem?, isLast]
      simp only [firstByte, lastByte, isLast, List.isEmpty_cons, List.head?_cons, bind,
        Except.bind, Bool.not_false, Bool.true_and, Bool.false_eq_true, if_false, ne_eq,
        Option.some.injEq]
      by_cases firstDot : first = dot
      · rw [if_pos firstDot, decide_eq_false (not_not_intro firstDot)]
        rfl
      by_cases lastDot : last = dot
      · rw [if_neg firstDot, if_pos lastDot, decide_eq_false (not_not_intro lastDot), Bool.and_false]
        rfl
      · have lastNoDot : (first :: rest).getLast? ≠ some dot := by simpa [isLast] using lastDot
        rw [if_neg firstDot, if_neg lastDot, decide_eq_true firstDot, decide_eq_true lastDot,
          passAll_checkedRound lastNoDot List.drop_zero (Nat.zero_le _)]
        cases areAccepted (first :: rest) <;> rfl

theorem isHexDigit_toUInt8 {c : Char} (ascii : c.toNat < 0x80) :
    Percent.isHexDigit c.toUInt8 = Text.isHexDigit c := by
  rw [Percent.isHexDigit, Utf8.ofUInt8_toUInt8 ascii]

theorem ascii_of_isNameChar {c : Char} (nameChar : isNameChar c = true) : c.toNat < 0x80 := by
  simp only [isNameChar, Bool.or_eq_true, decide_eq_true_eq] at nameChar
  rcases nameChar with (plain | rfl) | rfl
  · exact ascii_of_isPlain plain
  · decide
  · decide

/-- Of characters that may stand in a name, the dot has the byte of a dot only. -/
theorem map_toUInt8_eq_some_dot_iff {c? : Option Char}
    (named : ∀ c ∈ c?, isNameChar c = true) :
    c?.map Char.toUInt8 = some dot ↔ c? = some '.' := by
  cases c? with
  | none => simp
  | some c =>
      constructor
      · intro same
        have ascii := ascii_of_isNameChar (named c rfl)
        rw [Utf8.eq_of_toUInt8_eq ascii (by decide) (Option.some.inj same)]
      · intro isDot
        rw [isDot]
        rfl

theorem toUInt8_ne_of_isPlain {c : Char} (plain : isPlain c = true) :
    c.toUInt8 ≠ percent ∧ c.toUInt8 ≠ dot := by
  have ascii := ascii_of_isPlain plain
  constructor
  · intro same
    rw [Utf8.eq_of_toUInt8_eq ascii (by decide) same] at plain
    cases plain
  · intro same
    rw [Utf8.eq_of_toUInt8_eq ascii (by decide) same] at plain
    cases plain

theorem getLast?_ne_of_cons {c d : Char} {rest : List Char}
    (lastNot : (c :: rest).getLast? ≠ some d) : rest.getLast? ≠ some d := by
  intro last
  apply lastNot
  rw [List.getLast?_cons, last]
  rfl

/-- On characters that may stand in names, the verdict is the one that is given without a
cursor. -/
theorem areAccepted_map {expecting : Bool} {rest : List Char}
    (named : ∀ c ∈ rest, isNameChar c = true) (lastNoDot : rest.getLast? ≠ some '.')
    (fresh : expecting = true → rest ≠ [] ∧ rest.head? ≠ some '.') :
    areAccepted (rest.map Char.toUInt8) = continues expecting rest := by
  fun_induction continues expecting rest with
  | case1 expecting =>
      cases expecting with
      | false => rfl
      | true => exact absurd rfl (fresh rfl).1
  | case2 expecting c rest plain inductionHypothesis =>
      obtain ⟨notPercent, notDot⟩ := toUInt8_ne_of_isPlain plain
      rw [List.map_cons, areAccepted_plain notPercent notDot]
      exact inductionHypothesis (fun d membership => named d (List.mem_cons_of_mem _ membership))
        (getLast?_ne_of_cons lastNoDot) (absurd · Bool.false_ne_true)
  | case3 expecting rest notPlain inductionHypothesis =>
      have restNamed : ∀ d ∈ rest, isNameChar d = true := fun d membership =>
        named d (List.mem_cons_of_mem _ membership)
      have notExpecting : expecting = false := by
        cases expecting with
        | false => rfl
        | true => exact absurd rfl (fresh rfl).2
      have nonempty : rest ≠ [] := by
        rintro rfl
        exact lastNoDot rfl
      have doubled : (rest.map Char.toUInt8).head? = some dot ↔ rest.head? = some '.' := by
        rw [List.head?_map]
        apply map_toUInt8_eq_some_dot_iff
        intro c isHead
        exact restNamed c (List.mem_of_mem_head? isHead)
      rw [List.map_cons, show '.'.toUInt8 = dot from rfl, areAccepted_dot, notExpecting,
        Bool.not_false, Bool.true_and, decide_not, decide_eq_decide.mpr doubled]
      by_cases isDot : rest.head? = some '.'
      · obtain ⟨later, rfl⟩ := List.head?_eq_some_iff.mp isDot
        rw [continues_dot, decide_eq_true isDot]
        rfl
      · rw [decide_eq_false isDot, Bool.not_false, Bool.true_and]
        exact inductionHypothesis restNamed (getLast?_ne_of_cons lastNoDot)
          (fun _ => ⟨nonempty, isDot⟩)
  | case4 expecting high low later _ _ inductionHypothesis =>
      have highAscii := ascii_of_isNameChar (named high (by simp))
      have lowAscii := ascii_of_isNameChar (named low (by simp))
      rw [List.map_cons, List.map_cons, List.map_cons, show '%'.toUInt8 = percent from rfl,
        areAccepted_escape, isHexDigit_toUInt8 highAscii, isHexDigit_toUInt8 lowAscii,
        inductionHypothesis]
      · intro d membership
        exact named d (by simp [membership])
      · exact getLast?_ne_of_cons (getLast?_ne_of_cons (getLast?_ne_of_cons lastNoDot))
      · exact (absurd · Bool.false_ne_true)
  | case5 expecting rest short =>
      rcases eq_nil_or_singleton short with rfl | ⟨_, rfl⟩
      · rfl
      · rfl
  | case6 expecting c rest notPlain notDot notPercent =>
      have nameChar := named c List.mem_cons_self
      simp [isNameChar, notPlain, notDot, notPercent] at nameChar

theorem getLast?_cons_eq_some_iff {c d : Char} {rest : List Char} :
    (c :: rest).getLast? = some d ↔ rest.getLast? = some d ∨ rest = [] ∧ c = d := by
  cases rest with
  | nil => simp
  | cons next later => simp [List.getLast?_cons_cons]

/-- No name ends with a dot. -/
theorem getLast?_ne_dot_of_continues {expecting : Bool} {rest : List Char}
    (accepted : continues expecting rest = true) : rest.getLast? ≠ some '.' := by
  fun_induction continues expecting rest with
  | case1 =>
      intro last
      cases last
  | case2 expecting c rest plain inductionHypothesis =>
      intro last
      rcases getLast?_cons_eq_some_iff.mp last with later | ⟨-, rfl⟩
      · exact inductionHypothesis accepted later
      · cases plain
  | case3 expecting rest notPlain inductionHypothesis =>
      obtain ⟨-, further⟩ := Bool.and_eq_true_iff.mp accepted
      intro last
      rcases getLast?_cons_eq_some_iff.mp last with later | ⟨rfl, -⟩
      · exact inductionHypothesis further later
      · cases further
  | case4 expecting high low later _ _ inductionHypothesis =>
      simp only [Bool.and_eq_true] at accepted
      intro last
      rw [List.getLast?_cons_cons, List.getLast?_cons_cons] at last
      rcases getLast?_cons_eq_some_iff.mp last with later | ⟨-, rfl⟩
      · exact inductionHypothesis accepted.2 later
      · cases accepted.1.2
  | case5 => cases accepted
  | case6 => cases accepted

/-- A text of characters that may stand in names is judged as without a cursor. -/
theorem checkedIsValid_eq {name : List Char} (named : ∀ c ∈ name, isNameChar c = true) :
    (checkedIsValid name : Checked ε Bool) = .ok (isValid name) := by
  rw [checkedIsValid_eq_isAccepted, isAccepted,
    Utf8.encode_eq_map fun c membership => ascii_of_isNameChar (named c membership)]
  have headDot : (name.map Char.toUInt8).head? = some dot ↔ name.head? = some '.' := by
    rw [List.head?_map]
    apply map_toUInt8_eq_some_dot_iff
    intro c isHead
    exact named c (List.mem_of_mem_head? isHead)
  have lastDot : (name.map Char.toUInt8).getLast? = some dot ↔ name.getLast? = some '.' := by
    rw [List.getLast?_map]
    apply map_toUInt8_eq_some_dot_iff
    intro c isLast
    exact named c (List.mem_of_mem_getLast? isLast)
  simp only [ne_eq, headDot, lastDot]
  cases name with
  | nil => rfl
  | cons c rest =>
      by_cases startsWithDot : c = '.'
      · rw [startsWithDot, isValid, continues_dot]
        rfl
      by_cases endsWithDot : (c :: rest).getLast? = some '.'
      · have refused : isValid (c :: rest) = false := by
          rw [Bool.eq_false_iff]
          intro accepted
          exact getLast?_ne_dot_of_continues accepted endsWithDot
        simp [endsWithDot, refused]
      · have fresh : (c :: rest).head? ≠ some '.' := by simpa using startsWithDot
        have verdict : areAccepted ((c :: rest).map Char.toUInt8) = continues true (c :: rest) :=
          areAccepted_map named endsWithDot fun _ => ⟨List.cons_ne_nil _ _, fresh⟩
        rw [verdict, isValid]
        simp [startsWithDot, endsWithDot]

end UriExpansion.VariableName
