import UriExpansion.Proofs.Template.CheckedName
import UriExpansion.Proofs.Template.Refusal

/-!
Reading with a cursor meets no fault. What is read at a place is told by the text in front of
it and the text ahead; each round of the scanner ends where an expression ends, so the cursor
is always between two characters, and it stops where reading without a cursor stops, with
the same template or the same error.
-/

namespace UriExpansion

open Text Text.Checked

namespace Modifier

theorem size_of_digits {digits : List Char} (allDigits : ∀ c ∈ digits, c.isDigit = true) :
    Utf8.size digits = digits.length := by
  have ascii : ∀ c ∈ digits, c.toNat < 0x80 := fun c membership =>
    Nat.lt_of_le_of_lt (Char.isDigit_iff_toNat.mp (allDigits c membership)).2 (by decide)
  rw [← Utf8.length_encode, Utf8.encode_eq_map ascii, List.length_map]

/-- Up to four digits write a number, and one that is no greater than a length may be. -/
theorem wordNumber?_of_digits {digits : List Char} (nonempty : 1 ≤ digits.length)
    (allDigits : ∀ c ∈ digits, c.isDigit = true) (short : digits.length ≤ 4) :
    wordNumber? digits = some (decimalNumber digits) ∧ decimalNumber digits ≤ 9999 := by
  have noSign : digits.head? ≠ some '+' := by
    intro sign
    cases allDigits '+' (List.mem_of_mem_head? sign)
  have digitsOnly := ModifierSpelling.not_refused_iff.mpr ⟨nonempty, allDigits⟩
  have below := decimalNumber_lt allDigits
  have power : 10 ^ digits.length ≤ 10 ^ 4 := Nat.pow_le_pow_right (by decide) short
  have fits : decimalNumber digits < UInt64.size := by
    have wide : 10 ^ 4 < UInt64.size := by decide
    omega
  constructor
  · simp only [wordNumber?, if_neg noSign, if_neg digitsOnly, if_pos fits]
  · omega

theorem checkedRead_of_digits {digits : List Char}
    (digitsOnly : ¬ (digits.isEmpty || !digits.all Char.isDigit) = true)
    (short : ¬ 4 < digits.length) :
    checkedRead (':' :: digits) =
      match upTo? (decimalNumber digits) with
      | some modifier => .ok modifier
      | none => refuse .lengthOutOfRange := by
  obtain ⟨nonempty, allDigits⟩ := ModifierSpelling.not_refused_iff.mp digitsOnly
  obtain ⟨number, bounded⟩ := wordNumber?_of_digits nonempty allDigits (Nat.not_lt.mp short)
  simp only [checkedRead, if_neg digitsOnly, size_of_digits allDigits, if_neg short, number,
    if_neg (Nat.not_lt.mpr bounded)]
  rfl

theorem checkedRead_eq (written : List Char) :
    checkedRead written = (read written).mapError .refusal := by
  fun_cases Modifier.read written with
  | case1 => rfl
  | case2 => rfl
  | case3 digits notDigits =>
      simp only [checkedRead, if_pos notDigits]
      rfl
  | case4 digits digitsOnly long =>
      have size := size_of_digits (ModifierSpelling.not_refused_iff.mp digitsOnly).2
      simp only [checkedRead, if_neg digitsOnly, size, if_pos long]
      rfl
  | case5 digits digitsOnly short modifier taken =>
      rw [checkedRead_of_digits digitsOnly short, taken]
      rfl
  | case6 digits digitsOnly short unfit =>
      rw [checkedRead_of_digits digitsOnly short, unfit]
      rfl
  | case7 _ noText noStar noColon =>
      rw [checkedRead]
      · rfl
      · exact noText
      · exact noStar
      · exact noColon

end Modifier

namespace VarSpec

theorem checkedRead_eq (written : List Char) :
    checkedRead written = (read written).mapError .refusal := by
  have split := written.takeWhile_append_dropWhile (p := VariableName.isNameChar)
  have named : ∀ c ∈ written.takeWhile VariableName.isNameChar,
      VariableName.isNameChar c = true := fun c membership => List.mem_takeWhile_imp membership
  have cutName := slice_append (ε := InvalidReason) []
    (written.takeWhile VariableName.isNameChar) (written.dropWhile VariableName.isNameChar)
  have cutModifier := slice_to_end (ε := InvalidReason)
    (written.takeWhile VariableName.isNameChar) (written.dropWhile VariableName.isNameChar)
  rw [List.nil_append, split, show Utf8.size [] = 0 from rfl, Nat.zero_add] at cutName
  rw [split] at cutModifier
  simp only [checkedRead, find?_not_getD, cutName, cutModifier,
    VariableName.checkedIsValid_eq named, Modifier.checkedRead_eq, read, bind, Except.bind]
  split
  next =>
    cases Modifier.read (written.dropWhile VariableName.isNameChar) <;> rfl
  next => rfl

theorem mapM_checkedRead (texts : List (List Char)) :
    texts.mapM checkedRead = (readAll texts).mapError .refusal := by
  induction texts with
  | nil => rfl
  | cons first rest inductionHypothesis =>
      rw [List.mapM_cons, checkedRead_eq, inductionHypothesis, readAll]
      cases read first with
      | error reason => rfl
      | ok spec => cases readAll rest <;> rfl

end VarSpec

namespace Expression

/-- Text between commas is at least one variable, so an expression is never without any. -/
theorem exists_ofSpecs? (operator : Operator) {text : List Char} {specs : List VarSpec}
    (accepted : VarSpec.readAll (text.splitOn ',') = .ok specs) :
    ∃ expression, ofSpecs? operator specs = some expression := by
  obtain ⟨vars, texts, rfl⟩ := VarSpelling.exists_of_readAll accepted
  have nonempty : vars.map VarSpelling.meaning ≠ [] := by
    intro empty
    rw [List.map_eq_nil_iff.mp empty] at texts
    exact List.splitOn_ne_nil ',' text texts.symm
  exact ⟨_, dif_pos nonempty⟩

theorem checkedRead_eq (body : List Char) :
    checkedRead body = (read body).mapError .refusal := by
  unfold checkedRead read
  simp only [VarSpec.mapM_checkedRead]
  split
  next => rfl
  next =>
    cases accepted : VarSpec.readAll ((splitOperator body).2.splitOn ',') with
    | error reason => rfl
    | ok specs =>
        obtain ⟨expression, built⟩ := exists_ofSpecs? (splitOperator body).1 accepted
        simp only [Except.mapError, bind, Except.bind, built]
        rfl

end Expression

namespace Template

open Utf8 (size size_cons size_append)

theorem checkedEncodeRuns_nfc (run : List Char) :
    (Percent.checkedEncodeRuns (NormalForm.nfc run) : Checked TemplateError (List Char)) =
      .ok (Allowed.unreservedAndReserved.encodeChars run) := by
  rw [Percent.checkedEncodeRuns_eq, Percent.encodeRuns_eq_scan, ← Allowed.encodeBytes_eq_scan]
  rfl

theorem size_opening_cons (rest : List Char) : size ('\x7b' :: rest) = 1 + size rest :=
  size_cons _ _

/-- What stands behind an opening brace, up to some place. -/
theorem slice_behind_opening (front body behind : List Char) :
    (slice (front ++ '\x7b' :: (body ++ behind)) (size front + 1) (size front + 1 + size body) :
      Checked TemplateError (List Char)) = .ok body := by
  apply slice_eq_ok_iff.mpr
  refine ⟨front ++ ['\x7b'], behind, ?_, ?_, ?_⟩
  · rw [List.append_assoc, List.singleton_append]
  · rw [size_append, size_opening_cons]
    rfl
  · rw [size_append, size_opening_cons]
    rfl

theorem find?_brace_of_not_mem {brace : Char} {text : List Char} (absent : brace ∉ text) :
    find? (· = brace) text = none := by
  apply find?_eq_none
  intro c membership
  apply decide_eq_false
  rintro rfl
  exact absent membership

theorem find?_brace_append {brace : Char} {front : List Char} (absent : brace ∉ front)
    (rest : List Char) : find? (· = brace) (front ++ brace :: rest) = some (size front) := by
  apply find?_append_cons _ (decide_eq_true rfl)
  intro c membership
  apply decide_eq_false
  rintro rfl
  exact absent membership

namespace Scanner

variable (front : List Char) (elements : List Element)

theorem pushLiteral_eq (run behind : List Char) :
    pushLiteral (front ++ (run ++ behind)) ⟨size front, elements⟩ (size front + size run) =
      .ok ⟨size front + size run, elements ++ literals run⟩ := by
  by_cases empty : run = []
  · have nothing : ¬ size front < size front + size [] := Nat.lt_irrefl _
    rw [empty]
    simp only [pushLiteral, if_neg nothing, literals, List.isEmpty_nil, if_true, List.append_nil]
    rfl
  · have written : literals run =
        [.literal (String.ofList (Allowed.unreservedAndReserved.encodeChars run))] :=
      if_neg (mt List.isEmpty_iff.mp empty)
    rw [pushLiteral, if_pos (Nat.lt_add_of_pos_right (size_pos empty)), slice_append, written]
    simp only [bind, Except.bind, checkedEncodeRuns_nfc]
    rfl

theorem refuseSlice_eq (shown behind : List Char) (reason : InvalidReason) :
    refuseSlice (front ++ (shown ++ behind)) (size front) (size front + size shown) reason =
      refuse ⟨size front, String.ofList shown, reason⟩ := by
  rw [refuseSlice, slice_append]
  rfl

/-- An expression that is never closed is refused with everything from its brace on. -/
theorem pushExpression_unclosed {body : List Char} (noClosing : '\x7d' ∉ body) :
    pushExpression (front ++ '\x7b' :: body) ⟨size front, elements⟩ =
      refuse ⟨size front, String.ofList ('\x7b' :: body), .unterminated⟩ := by
  have extent : size (front ++ '\x7b' :: body) = size front + 1 + size body := by
    rw [size_append, size_opening_cons, Nat.add_assoc]
  have cutBody := slice_behind_opening front body []
  have shown := refuseSlice_eq front ('\x7b' :: body) [] .unterminated
  rw [List.append_nil] at cutBody shown
  rw [size_opening_cons, ← Nat.add_assoc] at shown
  rw [pushExpression, extent]
  simp only [cutBody, bind, Except.bind, find?_brace_of_not_mem noClosing]
  exact shown

/-- A closed expression is read or refused by its body alone. -/
theorem pushExpression_braced {body : List Char} (noClosing : '\x7d' ∉ body)
    (later : List Char) :
    pushExpression (front ++ '\x7b' :: (body ++ '\x7d' :: later)) ⟨size front, elements⟩ =
      match Expression.read body with
      | .error reason =>
          refuse ⟨size front, String.ofList ('\x7b' :: body ++ ['\x7d']), reason⟩
      | .ok expression =>
          .ok ⟨size front + 1 + size body + 1, elements ++ [.expression expression]⟩ := by
  have extent : size (front ++ '\x7b' :: (body ++ '\x7d' :: later)) =
      size front + 1 + size (body ++ '\x7d' :: later) := by
    rw [size_append, size_opening_cons, Nat.add_assoc]
  have cutBehind := slice_behind_opening front (body ++ '\x7d' :: later) []
  have cutBody := slice_behind_opening front body ('\x7d' :: later)
  rw [List.append_nil] at cutBehind
  rw [pushExpression, extent]
  simp only [cutBehind, cutBody, bind, Except.bind, find?_brace_append noClosing,
    Expression.checkedRead_eq]
  cases Expression.read body with
  | ok expression => rfl
  | error reason =>
      have shown := refuseSlice_eq front ('\x7b' :: body ++ ['\x7d']) later reason
      have stop : size ('\x7b' :: body ++ ['\x7d']) = 1 + size body + 1 := by
        rw [size_append, size_opening_cons]
        rfl
      rw [stop, ← Nat.add_assoc, ← Nat.add_assoc] at shown
      simp only [List.cons_append, List.append_assoc, List.nil_append] at shown
      exact shown

/-- Where no brace opens any more, the rest is a literal. -/
theorem round_run {run : List Char} (noOpening : '\x7b' ∉ run) :
    round (front ++ run) ⟨size front, elements⟩ =
      .ok ⟨size (front ++ run), elements ++ literals run⟩ := by
  have pushed := pushLiteral_eq front elements run []
  rw [List.append_nil, ← size_append] at pushed
  rw [round, slice_to_end]
  simp only [bind, Except.bind, find?_brace_of_not_mem noOpening]
  exact pushed

theorem round_opening {run : List Char} (noOpening : '\x7b' ∉ run) (rest : List Char) :
    round (front ++ (run ++ '\x7b' :: rest)) ⟨size front, elements⟩ =
      pushExpression ((front ++ run) ++ '\x7b' :: rest)
        ⟨size (front ++ run), elements ++ literals run⟩ := by
  rw [round, slice_to_end]
  simp only [bind, Except.bind, find?_brace_append noOpening, pushLiteral_eq]
  rw [size_append, List.append_assoc]

theorem size_braced (run body : List Char) :
    size (front ++ (run ++ '\x7b' :: (body ++ ['\x7d']))) =
      size front + size run + size body + 2 := by
  have closing : size ['\x7d'] = 1 := rfl
  simp only [size_append, size_opening_cons, closing]
  omega

theorem round_refused {run body : List Char} (noOpening : '\x7b' ∉ run)
    (noClosing : '\x7d' ∉ body) {reason : InvalidReason}
    (refused : Expression.read body = .error reason) (later : List Char) :
    round (front ++ (run ++ '\x7b' :: (body ++ '\x7d' :: later))) ⟨size front, elements⟩ =
      refuse ⟨size front + size run, String.ofList ('\x7b' :: body ++ ['\x7d']), reason⟩ := by
  rw [round_opening _ _ noOpening, pushExpression_braced _ _ noClosing, refused, size_append]

/-- A round that reads an expression ends behind the closing brace. -/
theorem round_accepted {run body : List Char} (noOpening : '\x7b' ∉ run)
    (noClosing : '\x7d' ∉ body) {expression : Expression}
    (accepted : Expression.read body = .ok expression) (later : List Char) :
    round (front ++ (run ++ '\x7b' :: (body ++ '\x7d' :: later))) ⟨size front, elements⟩ =
      .ok ⟨size (front ++ (run ++ '\x7b' :: (body ++ ['\x7d']))),
        elements ++ literals run ++ [.expression expression]⟩ := by
  have behind : size (front ++ run) + 1 + size body + 1 =
      size (front ++ (run ++ '\x7b' :: (body ++ ['\x7d']))) := by
    rw [size_braced, size_append]
    omega
  rw [round_opening _ _ noOpening, pushExpression_braced _ _ noClosing, accepted, behind]

/-- The scanner goes on from any place between two characters as reading goes on there. -/
theorem passAll_round (rest : List Char) :
    passAll (size (front ++ rest)) position (round (front ++ rest)) ⟨size front, elements⟩ =
      match readFrom (size front) rest with
      | .error error => refuse error
      | .ok found => .ok ⟨size (front ++ rest), elements ++ found⟩ := by
  induction Cut.of rest generalizing front elements with
  | @run run noOpening =>
      rw [readFrom_run _ noOpening]
      by_cases empty : run = []
      · have atEnd : size (front ++ []) ≤ position ⟨size front, elements⟩ := by
          rw [List.append_nil]
        rw [empty, passAll_of_end atEnd]
        simp [literals]
      · have passed := round_run front elements noOpening
        have forward : position ⟨size front, elements⟩ < size (front ++ run) := by
          rw [size_append]
          exact Nat.lt_add_of_pos_right (size_pos empty)
        rw [passAll_of_ok forward passed forward (Nat.le_refl _)]
        exact passAll_of_end (Nat.le_refl _)
  | @unclosed run body noOpening noClosing =>
      have left : position ⟨size front, elements⟩ < size (front ++ (run ++ '\x7b' :: body)) := by
        simp only [size_append, size_opening_cons]
        omega
      have stopped := round_opening front elements noOpening body
      rw [pushExpression_unclosed _ _ noClosing, size_append] at stopped
      rw [readFrom_unclosed _ noOpening noClosing, passAll_of_error left stopped]
      rfl
  | @braced run body later noOpening noClosing _ inductionHypothesis =>
      have whole : front ++ (run ++ '\x7b' :: (body ++ ['\x7d'])) ++ later =
          front ++ (run ++ '\x7b' :: (body ++ '\x7d' :: later)) := by simp
      have forward : position ⟨size front, elements⟩ <
          size (front ++ (run ++ '\x7b' :: (body ++ ['\x7d']))) := by
        simp only [size_braced]
        omega
      have inside : size (front ++ (run ++ '\x7b' :: (body ++ ['\x7d']))) ≤
          size (front ++ (run ++ '\x7b' :: (body ++ '\x7d' :: later))) := by
        rw [← whole, size_append _ later]
        exact Nat.le_add_right _ _
      have left := Nat.lt_of_lt_of_le forward inside
      rw [readFrom_braced _ noOpening noClosing]
      cases bodyRead : Expression.read body with
      | error reason =>
          rw [passAll_of_error left (round_refused front elements noOpening noClosing bodyRead _)]
          rfl
      | ok expression =>
          have passed := round_accepted front elements noOpening noClosing bodyRead later
          have further := inductionHypothesis (front ++ (run ++ '\x7b' :: (body ++ ['\x7d'])))
            (elements ++ literals run ++ [.expression expression])
          rw [whole, size_braced] at further
          rw [size_braced] at passed forward inside
          rw [passAll_of_ok left passed forward inside, further]
          cases readFrom (size front + size run + size body + 2) later with
          | error error => rfl
          | ok found => simp [Except.map]

end Scanner

theorem checkedRead_eq (text : String) :
    checkedRead text = (read text).mapError .refusal := by
  have passed : passAll (size text.toList) Scanner.position (Scanner.round text.toList) .start =
      match readFrom 0 text.toList with
      | .error error => refuse error
      | .ok found => .ok ⟨size text.toList, found⟩ :=
    Scanner.passAll_round [] [] text.toList
  rw [checkedRead, passed, read_eq_map_readFrom]
  cases readFrom 0 text.toList <;> rfl

/-- Reading meets no fault on any text: whatever it slices begins and ends between two
characters, every byte it looks at is there, every round of its loops moves the cursor on and
not past the end, and no excluded case comes up. What it answers is what reading without
these checks answers. So do the encoding of runs and the judgement of names by themselves. -/
theorem checkedRead_meets_no_fault (text : String) :
    (∀ found, checkedRead text ≠ fault found) ∧
      checkedRead text = (read text).mapError .refusal ∧
      (Percent.checkedEncodeRuns text.toList : Checked TemplateError (List Char)) =
        .ok (Percent.encodeRuns (Utf8.encode text.toList)) ∧
      (∃ verdict, (VariableName.checkedIsValid text.toList : Checked InvalidReason Bool) =
        .ok verdict) ∧
      (VariableName.checkedIsValid (text.toList.takeWhile VariableName.isNameChar) :
        Checked InvalidReason Bool) =
        .ok (VariableName.isValid (text.toList.takeWhile VariableName.isNameChar)) := by
  refine ⟨?_, checkedRead_eq text, Percent.checkedEncodeRuns_eq _,
    ⟨_, VariableName.checkedIsValid_eq_isAccepted _⟩,
    VariableName.checkedIsValid_eq fun _ membership => List.mem_takeWhile_imp membership⟩
  intro found faulty
  rw [checkedRead_eq] at faulty
  cases answer : read text with
  | error error =>
      rw [answer] at faulty
      cases faulty
  | ok template =>
      rw [answer] at faulty
      cases faulty

end Template

end UriExpansion
