import UriExpansion.Proofs.Template.Concatenation

/-!
Errors of reading. A text is refused exactly if it is a template in front of a malformed
expression, so the error names the first one, and what stands behind its closing brace does
not count. Inside the expression the first variable that is not spelled decides, and inside
that variable a fault of the name comes before one of the modifier.

The reasons are given by relations that follow the text from the modifier up to the
template; each of them holds exactly of the errors of its reader.
-/

namespace UriExpansion

open VariableName (IsName isNameChar)

namespace Modifier

/-- Whether a modifier writes a number that is no prefix length. -/
def IsOutOfRange (written : List Char) : Prop :=
  ∃ digits, written = ':' :: digits ∧ 1 ≤ digits.length ∧ (∀ c ∈ digits, c.isDigit = true) ∧
    (4 < digits.length ∨ decimalNumber digits = 0)

/-- Why a text spells no modifier. -/
inductive Refused (written : List Char) : InvalidReason → Prop
  | range : IsOutOfRange written → Refused written .lengthOutOfRange
  | form : (∀ spelling : ModifierSpelling, spelling.text ≠ written) →
      ¬ IsOutOfRange written → Refused written .invalidModifier

theorem text_ne_of_isOutOfRange {written : List Char} (outOfRange : IsOutOfRange written)
    (spelling : ModifierSpelling) : spelling.text ≠ written := by
  obtain ⟨digits, rfl, nonempty, -, unfit⟩ := outOfRange
  cases spelling with
  | plain | explode => simp [ModifierSpelling.text]
  | upTo length =>
      intro same
      cases same
      rcases unfit with long | zero
      · exact absurd length.atMostFour (Nat.not_le.mpr long)
      · exact absurd length.positive (by omega)

theorem exists_read_eq_error {written : List Char}
    (unspelled : ∀ spelling : ModifierSpelling, spelling.text ≠ written) :
    ∃ reason, read written = .error reason := by
  cases modifierRead : read written with
  | error reason => exact ⟨reason, rfl⟩
  | ok modifier =>
      obtain ⟨spelling, spelled, -⟩ := ModifierSpelling.exists_of_read modifierRead
      exact absurd spelled (unspelled spelling)

theorem decimalNumber_eq_zero_of_upTo? {digits : List Char} (nonempty : 1 ≤ digits.length)
    (allDigits : ∀ c ∈ digits, c.isDigit = true) (short : ¬ 4 < digits.length)
    (refused : upTo? (decimalNumber digits) = none) : decimalNumber digits = 0 := by
  by_contra nonzero
  let spelling : LengthSpelling :=
    ⟨digits, allDigits, nonempty, Nat.not_lt.mp short, Nat.one_le_iff_ne_zero.mpr nonzero⟩
  have admissible : 1 ≤ decimalNumber digits ∧ decimalNumber digits ≤ 9999 :=
    ⟨spelling.positive, spelling.bounded⟩
  simp [upTo?, admissible] at refused

theorem refused_of_read {written : List Char} {reason : InvalidReason}
    (refused : read written = .error reason) : Refused written reason := by
  have unspelled : ∀ spelling : ModifierSpelling, spelling.text ≠ written := by
    rintro spelling rfl
    rw [spelling.read_text] at refused
    cases refused
  revert refused unspelled
  fun_cases Modifier.read written with
  | case1 | case2 | case5 => rintro ⟨⟩
  | case3 digits notDigits =>
      rintro ⟨⟩ unspelled
      refine .form unspelled ?_
      rintro ⟨_, ⟨⟩, nonempty, allDigits, -⟩
      exact ModifierSpelling.not_refused_iff.mpr ⟨nonempty, allDigits⟩ notDigits
  | case4 digits digitsOnly long =>
      rintro ⟨⟩ -
      obtain ⟨nonempty, allDigits⟩ := ModifierSpelling.not_refused_iff.mp digitsOnly
      exact .range ⟨digits, rfl, nonempty, allDigits, .inl long⟩
  | case6 digits digitsOnly short unfit =>
      rintro ⟨⟩ -
      obtain ⟨nonempty, allDigits⟩ := ModifierSpelling.not_refused_iff.mp digitsOnly
      have zero := decimalNumber_eq_zero_of_upTo? nonempty allDigits short unfit
      exact .range ⟨digits, rfl, nonempty, allDigits, .inr zero⟩
  | case7 _ _ _ noColon =>
      rintro ⟨⟩ unspelled
      refine .form unspelled ?_
      rintro ⟨digits, colon, -⟩
      exact noColon digits colon

theorem Refused.unspelled {written : List Char} {reason : InvalidReason}
    (refused : Refused written reason) (spelling : ModifierSpelling) :
    spelling.text ≠ written := by
  cases refused with
  | range outOfRange => exact text_ne_of_isOutOfRange outOfRange spelling
  | form unspelled => exact unspelled spelling

theorem Refused.unique {written : List Char} {reason reason' : InvalidReason}
    (refused : Refused written reason) (refused' : Refused written reason') :
    reason = reason' := by
  cases refused <;> cases refused' <;> first | rfl | contradiction

theorem read_eq_error_iff {written : List Char} {reason : InvalidReason} :
    read written = .error reason ↔ Refused written reason := by
  constructor
  · exact refused_of_read
  · intro refused
    obtain ⟨cause, modifierRead⟩ := exists_read_eq_error refused.unspelled
    rw [modifierRead, refused.unique (refused_of_read modifierRead)]

end Modifier

namespace VarSpec

/-- Why a text spells no variable. Its name is the longest run of name characters that it
starts with, and a fault of the name comes first. -/
inductive Refused (written : List Char) : InvalidReason → Prop
  | name : ¬ IsName (written.takeWhile isNameChar) → Refused written .invalidName
  | modifier {reason : InvalidReason} : IsName (written.takeWhile isNameChar) →
      Modifier.Refused (written.dropWhile isNameChar) reason → Refused written reason

theorem Refused.reason_ne {written : List Char} {reason : InvalidReason}
    (refused : Refused written reason) : reason ≠ .unterminated ∧ reason ≠ .emptyExpression := by
  rcases refused with - | ⟨-, - | -⟩ <;> decide

theorem read_of_isName {written : List Char} (named : IsName (written.takeWhile isNameChar)) :
    read written =
      (Modifier.read (written.dropWhile isNameChar)).map fun modifier =>
        ⟨String.ofList (written.takeWhile isNameChar), modifier⟩ :=
  if_pos (VariableName.isValid_iff_isName.mpr named)

theorem read_of_not_isName {written : List Char}
    (unnamed : ¬ IsName (written.takeWhile isNameChar)) : read written = .error .invalidName :=
  if_neg (mt VariableName.isValid_iff_isName.mp unnamed)

theorem read_eq_error_iff {written : List Char} {reason : InvalidReason} :
    read written = .error reason ↔ Refused written reason := by
  by_cases named : IsName (written.takeWhile isNameChar)
  · rw [read_of_isName named]
    constructor
    · intro refused
      cases modifierRead : Modifier.read (written.dropWhile isNameChar) with
      | ok modifier =>
          rw [modifierRead] at refused
          cases refused
      | error cause =>
          rw [modifierRead] at refused
          cases refused
          exact .modifier named (Modifier.read_eq_error_iff.mp modifierRead)
    · rintro (unnamed | ⟨-, refused⟩)
      · contradiction
      · rw [Modifier.read_eq_error_iff.mpr refused]
        rfl
  · rw [read_of_not_isName named]
    constructor
    · rintro ⟨⟩
      exact .name named
    · rintro (- | ⟨isNamed, -⟩)
      · rfl
      · contradiction

/-- Of several variables the first one that is not spelled is reported. -/
theorem readAll_eq_error_iff {texts : List (List Char)} {reason : InvalidReason} :
    readAll texts = .error reason ↔
      ∃ (accepted : List VarSpelling) (faulty : List Char) (later : List (List Char)),
        texts = accepted.map VarSpelling.text ++ faulty :: later ∧ Refused faulty reason := by
  constructor
  · intro refused
    induction texts with
    | nil => cases refused
    | cons first rest inductionHypothesis =>
        rw [readAll] at refused
        split at refused
        next firstRead =>
          cases refused
          exact ⟨[], first, rest, rfl, read_eq_error_iff.mp firstRead⟩
        next spec cause firstRead restRead =>
          cases refused
          obtain ⟨var, rfl, -⟩ := VarSpelling.exists_of_read firstRead
          obtain ⟨accepted, faulty, later, rfl, faultyRefused⟩ := inductionHypothesis restRead
          exact ⟨var :: accepted, faulty, later, rfl, faultyRefused⟩
        next => cases refused
  · rintro ⟨accepted, faulty, later, rfl, refused⟩
    induction accepted with
    | nil =>
        rw [List.map_nil, List.nil_append, readAll, read_eq_error_iff.mpr refused]
    | cons var accepted inductionHypothesis =>
        rw [List.map_cons, List.cons_append, readAll, var.read_text, inductionHypothesis]

end VarSpec

namespace Expression

/-- Whether a text between braces starts with the character of an operator, if with any, and
`vars` stands behind it. -/
structure Opens (body : List Char) (operator : Operator) (vars : List Char) : Prop where
  text : operator.char?.toList ++ vars = body
  operatorFirst : operator = .simple → ∀ c ∈ vars.head?, Operator.ofChar? c = none

theorem Opens.splitOperator_eq {body vars : List Char} {operator : Operator}
    (opens : Opens body operator vars) : splitOperator body = (operator, vars) := by
  obtain ⟨rfl, operatorFirst⟩ := opens
  cases operator with
  | simple =>
      cases vars with
      | nil => rfl
      | cons c rest =>
          have noOperator : Operator.ofChar? c = none := operatorFirst rfl c rfl
          simp [splitOperator, Operator.char?, noOperator]
  | _ => rfl

theorem exists_opens (body : List Char) : ∃ operator vars, Opens body operator vars := by
  refine ⟨_, _, text_of_splitOperator (Prod.eta (splitOperator body)).symm, ?_⟩
  fun_cases splitOperator body with
  | case1 => simp
  | case2 c rest operator selected =>
      rintro rfl
      cases (Operator.ofChar?_eq_some_iff c .simple).mp selected
  | case3 c rest noOperator => simpa using noOperator

/-- Why a text between braces is no expression. -/
inductive Refused (body : List Char) : InvalidReason → Prop
  | empty {operator : Operator} : body = operator.char?.toList → Refused body .emptyExpression
  | firstFaulty {operator : Operator} {vars : List Char} {accepted : List VarSpelling}
      {faulty : List Char} {later : List (List Char)} {reason : InvalidReason} :
      Opens body operator vars → vars ≠ [] →
      vars = [','].intercalate (accepted.map VarSpelling.text ++ faulty :: later) →
      (∀ part ∈ faulty :: later, ',' ∉ part) → VarSpec.Refused faulty reason →
      Refused body reason

theorem Refused.ne_unterminated {body : List Char} {reason : InvalidReason}
    (refused : Refused body reason) : reason ≠ .unterminated := by
  cases refused with
  | empty => decide
  | firstFaulty _ _ _ _ faultyRefused => exact faultyRefused.reason_ne.1

theorem splitOn_vars {accepted : List VarSpelling} {parts : List (List Char)}
    (nonempty : parts ≠ []) (noComma : ∀ part ∈ parts, ',' ∉ part) :
    ([','].intercalate (accepted.map VarSpelling.text ++ parts)).splitOn ',' =
      accepted.map VarSpelling.text ++ parts := by
  refine List.splitOn_intercalate ',' ?_ (List.append_ne_nil_of_right_ne_nil _ nonempty)
  intro part membership
  rcases List.mem_append.mp membership with inAccepted | inParts
  · obtain ⟨var, -, rfl⟩ := List.mem_map.mp inAccepted
    exact var.not_mem_text (by decide) (by decide) (by decide)
  · exact noComma part inParts

theorem read_of_char? (operator : Operator) :
    read operator.char?.toList = .error .emptyExpression := by
  cases operator <;> rfl

theorem read_of_readAll_error {body vars : List Char} {operator : Operator}
    {reason : InvalidReason} (opens : Opens body operator vars) (nonempty : vars ≠ [])
    (refused : VarSpec.readAll (vars.splitOn ',') = .error reason) :
    read body = .error reason := by
  have written : ¬ vars.isEmpty = true := mt List.isEmpty_iff.mp nonempty
  simp only [read, opens.splitOperator_eq, if_neg written, refused]

theorem read_of_readAll_ok {body vars : List Char} {operator : Operator} {specs : List VarSpec}
    (opens : Opens body operator vars) (nonempty : vars ≠ [])
    (accepted : VarSpec.readAll (vars.splitOn ',') = .ok specs) :
    ∃ expression, read body = .ok expression := by
  have written : ¬ vars.isEmpty = true := mt List.isEmpty_iff.mp nonempty
  obtain ⟨spellings, texts, rfl⟩ := VarSpelling.exists_of_readAll accepted
  have several : spellings.map VarSpelling.meaning ≠ [] := by
    intro none
    rw [List.map_eq_nil_iff.mp none] at texts
    exact List.splitOn_ne_nil ',' vars texts.symm
  refine ⟨⟨operator, _, several⟩, ?_⟩
  have built := ofSpecs?_eq_some_iff.mpr
    (show operator = (Expression.mk operator _ several).operator ∧ _ = _ from ⟨rfl, rfl⟩)
  simp only [read, opens.splitOperator_eq, if_neg written, accepted, built]

theorem read_eq_error_iff {body : List Char} {reason : InvalidReason} :
    read body = .error reason ↔ Refused body reason := by
  constructor
  · intro refused
    obtain ⟨operator, vars, opens⟩ := exists_opens body
    by_cases empty : vars = []
    · have alone : body = operator.char?.toList := by
        rw [← opens.text, empty, List.append_nil]
      rw [alone, read_of_char?] at refused
      cases refused
      exact .empty alone
    · cases specsRead : VarSpec.readAll (vars.splitOn ',') with
      | ok specs =>
          obtain ⟨expression, accepted⟩ := read_of_readAll_ok opens empty specsRead
          rw [accepted] at refused
          cases refused
      | error cause =>
          rw [read_of_readAll_error opens empty specsRead] at refused
          cases refused
          obtain ⟨accepted, faulty, later, parts, faultyRefused⟩ :=
            VarSpec.readAll_eq_error_iff.mp specsRead
          have joined : vars =
              [','].intercalate (accepted.map VarSpelling.text ++ faulty :: later) := by
            rw [← parts, List.intercalate_splitOn]
          refine .firstFaulty opens empty joined ?_ faultyRefused
          intro part membership
          refine Text.not_mem_of_mem_splitOn (show part ∈ vars.splitOn ',' from ?_)
          rw [parts]
          exact List.mem_append_right _ membership
  · rintro (rfl | ⟨opens, nonempty, rfl, noComma, faultyRefused⟩)
    · exact read_of_char? _
    · apply read_of_readAll_error opens nonempty
      rw [splitOn_vars (List.cons_ne_nil _ _) noComma]
      exact VarSpec.readAll_eq_error_iff.mpr ⟨_, _, _, rfl, faultyRefused⟩

theorem Refused.eq_emptyExpression_iff {body : List Char} {reason : InvalidReason}
    (refused : Refused body reason) :
    reason = .emptyExpression ↔ ∃ operator : Operator, body = operator.char?.toList := by
  constructor
  · rintro rfl
    cases refused with
    | empty alone => exact ⟨_, alone⟩
    | firstFaulty _ _ _ _ faultyRefused => exact absurd rfl faultyRefused.reason_ne.2
  · rintro ⟨operator, rfl⟩
    have bodyRead := read_eq_error_iff.mpr refused
    rw [read_of_char?] at bodyRead
    exact (Except.error.inj bodyRead).symm

end Expression

namespace Template

/-- A text that starts like an expression and is none, in front of `behind`. -/
inductive Malformed : List Char → List Char → InvalidReason → Prop
  | unclosed {body : List Char} : '\x7d' ∉ body → Malformed ('\x7b' :: body) [] .unterminated
  | braced {body behind : List Char} {reason : InvalidReason} : '\x7d' ∉ body →
      Expression.Refused body reason → Malformed ('\x7b' :: (body ++ ['\x7d'])) behind reason

theorem Malformed.readFrom {text behind : List Char} {reason : InvalidReason}
    (malformed : Malformed text behind reason) (position : Nat) :
    readFrom position (text ++ behind) = .error ⟨position, String.ofList text, reason⟩ := by
  cases malformed with
  | unclosed noClosing =>
      rw [List.append_nil]
      exact readFrom_unclosed position List.not_mem_nil noClosing
  | @braced body behind reason noClosing refused =>
      have noOpening : '\x7b' ∉ ([] : List Char) := List.not_mem_nil
      have read := readFrom_braced position noOpening noClosing behind
      rw [Expression.read_eq_error_iff.mpr refused] at read
      have written : '\x7b' :: (body ++ ['\x7d']) ++ behind =
          [] ++ '\x7b' :: (body ++ '\x7d' :: behind) := by simp
      rw [written, read]
      rfl

theorem Malformed.exists_cons {text behind : List Char} {reason : InvalidReason}
    (malformed : Malformed text behind reason) : ∃ rest, text = '\x7b' :: rest := by
  cases malformed with
  | unclosed | braced => exact ⟨_, rfl⟩

/-- Reading goes through a template in front of a malformed expression and stops there. -/
theorem readFrom_text_append_malformed (position : Nat) (spelling : TemplateSpelling)
    {text behind : List Char} {reason : InvalidReason}
    (malformed : Malformed text behind reason) :
    readFrom position (spelling.text ++ (text ++ behind)) =
      .error ⟨position + Text.Utf8.size spelling.text, String.ofList text, reason⟩ := by
  obtain ⟨rest, equality⟩ := malformed.exists_cons
  have ends : EndsAt spelling.lastRun.text (text ++ behind) :=
    .inr (.inr ⟨rest ++ behind, by rw [equality, List.cons_append]⟩)
  rw [spelling.readFrom_text_append position ends, malformed.readFrom]
  rfl

theorem exists_malformed_of_readFrom {position : Nat} {written : List Char}
    {error : TemplateError} (refused : readFrom position written = .error error) :
    ∃ (spelling : TemplateSpelling) (behind : List Char),
      written = spelling.text ++ (error.text.toList ++ behind) ∧
        error.position = position + Text.Utf8.size spelling.text ∧
        Malformed error.text.toList behind error.reason := by
  induction Cut.of written generalizing position with
  | run noOpening =>
      rw [readFrom_run position noOpening] at refused
      cases refused
  | @unclosed run body noOpening noClosing =>
      rw [readFrom_unclosed position noOpening noClosing] at refused
      cases refused
      refine ⟨.last ⟨run, noOpening⟩, [], ?_, rfl, ?_⟩
      · simp [TemplateSpelling.text]
      · simpa using Malformed.unclosed noClosing
  | @braced run body later noOpening noClosing _ inductionHypothesis =>
      rw [readFrom_braced position noOpening noClosing] at refused
      cases bodyRead : Expression.read body with
      | error reason =>
          rw [bodyRead] at refused
          cases refused
          have bodyRefused := Expression.read_eq_error_iff.mp bodyRead
          refine ⟨.last ⟨run, noOpening⟩, later, ?_, rfl, ?_⟩
          · simp [TemplateSpelling.text]
          · have malformed : Malformed _ later reason := .braced noClosing bodyRefused
            simpa using malformed
      | ok expression =>
          rw [bodyRead] at refused
          cases laterRead : readFrom
              (position + Text.Utf8.size run + Text.Utf8.size body + 2) later with
          | ok elements =>
              simp only [laterRead] at refused
              cases refused
          | error cause =>
              simp only [laterRead] at refused
              cases refused
              obtain ⟨spelled, rfl, -⟩ := ExpressionSpelling.exists_of_read bodyRead
              obtain ⟨spelling, behind, rfl, counted, malformed⟩ := inductionHypothesis laterRead
              refine ⟨.braced ⟨run, noOpening⟩ spelled spelling, behind, ?_, ?_, malformed⟩
              · simp [TemplateSpelling.text]
              · simp only [counted, TemplateSpelling.size_text_braced]
                omega

/-- A text is refused exactly if it is a template in front of a malformed expression. -/
theorem read_eq_error_iff {written : String} {error : TemplateError} :
    read written = .error error ↔
      ∃ before behind : String, written = before ++ error.text ++ behind ∧
        error.position = before.utf8ByteSize ∧ (∃ template, read before = .ok template) ∧
        Malformed error.text.toList behind.toList error.reason := by
  constructor
  · intro refused
    have elementsRefused : readFrom 0 written.toList = .error error := by
      rw [read_eq_map_readFrom] at refused
      cases elementsRead : readFrom 0 written.toList with
      | ok elements =>
          rw [elementsRead] at refused
          cases refused
      | error cause =>
          rw [elementsRead] at refused
          cases refused
          rfl
    obtain ⟨spelling, behind, parts, counted, malformed⟩ :=
      exists_malformed_of_readFrom elementsRefused
    refine ⟨String.ofList spelling.text, String.ofList behind, ?_, ?_,
      ⟨spelling.meaning, TemplateSpelling.read_of_text (String.toList_ofList).symm⟩, ?_⟩
    · rw [← String.toList_inj, parts]
      simp
    · rw [counted, Nat.zero_add, ← Text.Utf8.size_toList, String.toList_ofList]
    · rwa [String.toList_ofList]
  · rintro ⟨before, behind, rfl, counted, ⟨template, accepted⟩, malformed⟩
    obtain ⟨spelling, spelled, -⟩ := TemplateSpelling.exists_of_read accepted
    have stopped := readFrom_text_append_malformed 0 spelling malformed
    rw [String.ofList_toList, spelled, Text.Utf8.size_toList, Nat.zero_add, ← counted] at stopped
    rw [read_eq_map_readFrom, String.toList_append, String.toList_append, List.append_assoc,
      stopped]
    rfl

/-- An error names the first malformed expression, which is never closed or else refused
whatever stands behind its closing brace. -/
theorem first_malformed_of_read {written : String} {error : TemplateError}
    (refused : read written = .error error) :
    ∃ before behind : String, written = before ++ error.text ++ behind ∧
      error.position = before.utf8ByteSize ∧ (∃ template, read before = .ok template) ∧
      error.text.toList.head? = some '\x7b' ∧
      (error.reason = .unterminated → behind = "" ∧ '\x7d' ∉ error.text.toList) ∧
      (error.reason ≠ .unterminated → ∃ body, '\x7d' ∉ body ∧
        error.text.toList = '\x7b' :: (body ++ ['\x7d']) ∧
        (∀ further, read (before ++ error.text ++ further) = .error error) ∧
        (error.reason = .emptyExpression ↔
          ∃ operator : Operator, body = operator.char?.toList) ∧
        Expression.Refused body error.reason) := by
  obtain ⟨before, behind, rfl, counted, accepted, malformed⟩ := read_eq_error_iff.mp refused
  refine ⟨before, behind, rfl, counted, accepted, ?_⟩
  generalize spelled : error.text.toList = text, followed : behind.toList = rest,
    caused : error.reason = reason at malformed
  cases malformed with
  | @unclosed body noClosing =>
      refine ⟨rfl, fun _ => ⟨String.toList_eq_nil_iff.mp followed, ?_⟩, fun closed => ?_⟩
      · simpa using noClosing
      · exact absurd rfl closed
  | @braced body _ _ noClosing bodyRefused =>
      refine ⟨rfl, fun unclosed => ?_, fun _ => ⟨body, noClosing, rfl, fun further => ?_,
        bodyRefused.eq_emptyExpression_iff, bodyRefused⟩⟩
      · exact absurd unclosed bodyRefused.ne_unterminated
      · have again : Malformed _ further.toList _ := .braced noClosing bodyRefused
        rw [← spelled, ← caused] at again
        exact read_eq_error_iff.mpr ⟨before, further, rfl, counted, accepted, again⟩

/-- Behind a character of two bytes there are several faults; the first variable that is not
spelled decides. -/
theorem first_malformed_of_read_length :
    read "é\x7bok\x7d/\x7ba:0,b c\x7d\x7b" =
        .error ⟨7, "\x7ba:0,b c\x7d", .lengthOutOfRange⟩ ∧
      ∃ before behind : String,
        "é\x7bok\x7d/\x7ba:0,b c\x7d\x7b" = before ++ "\x7ba:0,b c\x7d" ++ behind ∧
          before.utf8ByteSize = 7 ∧
          ∀ further, read (before ++ "\x7ba:0,b c\x7d" ++ further) =
            .error ⟨7, "\x7ba:0,b c\x7d", .lengthOutOfRange⟩ := by
  have refused : read "é\x7bok\x7d/\x7ba:0,b c\x7d\x7b" =
      .error ⟨7, "\x7ba:0,b c\x7d", .lengthOutOfRange⟩ := by decide +kernel
  obtain ⟨before, behind, parts, counted, -, -, -, closed⟩ := first_malformed_of_read refused
  obtain ⟨_, -, -, again, -⟩ := closed (by decide)
  exact ⟨refused, before, behind, parts, counted.symm, again⟩

end Template

end UriExpansion
