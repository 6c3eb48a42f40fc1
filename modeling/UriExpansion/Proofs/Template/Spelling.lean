import UriExpansion.Proofs.Template.Length
import UriExpansion.Proofs.Template.Name
import UriExpansion.Proofs.Text.Delimiter

/-!
How expressions are spelled. A spelling keeps what the meaning forgets, the digits of a
prefix length, and is well formed by its type. Reading the text of a spelling gives its
meaning, every text that is read is spelled in one way, and no closing brace and no
comma ends up where it would be taken for a delimiter.
-/

namespace UriExpansion

/-- What may stand behind a name. -/
inductive ModifierSpelling where
  | plain
  | explode
  | upTo (length : LengthSpelling)

namespace ModifierSpelling

def text : ModifierSpelling → List Char
  | plain => []
  | explode => ['*']
  | upTo length => ':' :: length.digits

def meaning : ModifierSpelling → Modifier
  | plain => .plain
  | explode => .explode
  | upTo length => .upTo (decimalNumber length.digits) length.positive length.bounded

theorem text_injective {left right : ModifierSpelling} (same : left.text = right.text) :
    left = right := by
  cases left <;> cases right <;> simp_all [text, LengthSpelling.ext_iff]

theorem not_refused_iff {digits : List Char} :
    ¬ (digits.isEmpty || !digits.all Char.isDigit) = true ↔
      1 ≤ digits.length ∧ ∀ c ∈ digits, c.isDigit = true := by
  simp [Nat.one_le_iff_ne_zero]

theorem read_text (spelling : ModifierSpelling) :
    Modifier.read spelling.text = .ok spelling.meaning := by
  cases spelling with
  | plain => rfl
  | explode => rfl
  | upTo length =>
      have digitsOnly := not_refused_iff.mpr ⟨length.nonempty, length.allDigits⟩
      have short : ¬ 4 < length.digits.length := Nat.not_lt.mpr length.atMostFour
      have admissible : 1 ≤ decimalNumber length.digits ∧ decimalNumber length.digits ≤ 9999 :=
        ⟨length.positive, length.bounded⟩
      simp only [text, Modifier.read, if_neg digitsOnly, if_neg short, Modifier.upTo?,
        dif_pos admissible, meaning]

theorem exists_of_read {written : List Char} {modifier : Modifier}
    (accepted : Modifier.read written = .ok modifier) :
    ∃ spelling : ModifierSpelling, spelling.text = written ∧ spelling.meaning = modifier := by
  revert accepted
  fun_cases Modifier.read written with
  | case1 =>
      rintro ⟨⟩
      exact ⟨.plain, rfl, rfl⟩
  | case2 =>
      rintro ⟨⟩
      exact ⟨.explode, rfl, rfl⟩
  | case5 digits digitsOnly short found equality =>
      rintro ⟨⟩
      simp only [Modifier.upTo?] at equality
      split at equality
      next admissible =>
        cases equality
        obtain ⟨nonempty, allDigits⟩ := not_refused_iff.mp digitsOnly
        exact ⟨.upTo ⟨digits, allDigits, nonempty, Nat.not_lt.mp short, admissible.1⟩, rfl, rfl⟩
      next => cases equality
  | _ => exact fun impossible => nomatch impossible

/-- No modifier could be taken for a part of the name in front of it. -/
theorem takeWhile_text (spelling : ModifierSpelling) :
    spelling.text.takeWhile VariableName.isNameChar = [] := by
  cases spelling <;> rfl

theorem dropWhile_text (spelling : ModifierSpelling) :
    spelling.text.dropWhile VariableName.isNameChar = spelling.text := by
  cases spelling <;> rfl

/-- The characters of an expression that are none of its delimiters. -/
theorem not_mem_text (spelling : ModifierSpelling) {c : Char}
    (notDigit : c.isDigit = false) (notStar : c ≠ '*') (notColon : c ≠ ':') :
    c ∉ spelling.text := by
  cases spelling with
  | plain => exact List.not_mem_nil
  | explode => simpa [text] using notStar
  | upTo length =>
      intro membership
      rcases List.mem_cons.mp membership with colon | inDigits
      · exact notColon colon
      · simp [length.allDigits c inDigits] at notDigit

end ModifierSpelling

/-- A variable of an expression as it is written. -/
@[ext]
structure VarSpelling where
  name : List Char
  isName : VariableName.IsName name
  modifier : ModifierSpelling

namespace VarSpelling

def text (spelling : VarSpelling) : List Char :=
  spelling.name ++ spelling.modifier.text

def meaning (spelling : VarSpelling) : VarSpec :=
  ⟨String.ofList spelling.name, spelling.modifier.meaning⟩

/-- The name of a variable is the longest one that its text starts with. -/
theorem takeWhile_text (spelling : VarSpelling) :
    spelling.text.takeWhile VariableName.isNameChar = spelling.name := by
  rw [text, List.takeWhile_append_of_pos spelling.isName.isNameChar,
    spelling.modifier.takeWhile_text, List.append_nil]

theorem dropWhile_text (spelling : VarSpelling) :
    spelling.text.dropWhile VariableName.isNameChar = spelling.modifier.text := by
  rw [text, List.dropWhile_append_of_pos spelling.isName.isNameChar,
    spelling.modifier.dropWhile_text]

theorem text_injective {left right : VarSpelling} (same : left.text = right.text) :
    left = right := by
  have names : left.name = right.name := by
    rw [← left.takeWhile_text, ← right.takeWhile_text, same]
  have modifiers : left.modifier.text = right.modifier.text := by
    rw [← left.dropWhile_text, ← right.dropWhile_text, same]
  exact VarSpelling.ext names (ModifierSpelling.text_injective modifiers)

theorem read_text (spelling : VarSpelling) :
    VarSpec.read spelling.text = .ok spelling.meaning := by
  unfold VarSpec.read
  simp only [spelling.takeWhile_text, spelling.dropWhile_text]
  rw [if_pos (VariableName.isValid_iff_isName.mpr spelling.isName),
    spelling.modifier.read_text]
  rfl

theorem exists_of_read {written : List Char} {spec : VarSpec}
    (accepted : VarSpec.read written = .ok spec) :
    ∃ spelling : VarSpelling, spelling.text = written ∧ spelling.meaning = spec := by
  simp only [VarSpec.read] at accepted
  split at accepted
  next valid =>
    cases modifierRead : Modifier.read (written.dropWhile VariableName.isNameChar) with
    | error reason =>
        rw [modifierRead] at accepted
        cases accepted
    | ok modifier =>
        rw [modifierRead] at accepted
        cases accepted
        obtain ⟨spelling, spelled, rfl⟩ := ModifierSpelling.exists_of_read modifierRead
        refine ⟨⟨_, VariableName.isValid_iff_isName.mp valid, spelling⟩, ?_, rfl⟩
        rw [text, spelled, List.takeWhile_append_dropWhile]
  next => cases accepted

/-- A character that occurs neither in names nor in modifiers does not occur. -/
theorem not_mem_text (spelling : VarSpelling) {c : Char}
    (notNameChar : VariableName.isNameChar c = false) (notStar : c ≠ '*') (notColon : c ≠ ':') :
    c ∉ spelling.text := by
  intro membership
  rcases List.mem_append.mp membership with inName | inModifier
  · rw [spelling.isName.isNameChar c inName] at notNameChar
    cases notNameChar
  · refine spelling.modifier.not_mem_text ?_ notStar notColon inModifier
    cases digit : c.isDigit with
    | false => rfl
    | true =>
        simp [VariableName.isNameChar, VariableName.isPlain, Char.isAlphanum, digit] at notNameChar

/-- The texts of variables, none of which holds a comma. -/
theorem splitOn_intercalate_text {vars : List VarSpelling} (nonempty : vars ≠ []) :
    ([','].intercalate (vars.map text)).splitOn ',' = vars.map text := by
  refine List.splitOn_intercalate ',' ?_ (by simpa using nonempty)
  intro written membership
  obtain ⟨spelling, -, rfl⟩ := List.mem_map.mp membership
  exact spelling.not_mem_text (by decide) (by decide) (by decide)

theorem readAll_map_text (vars : List VarSpelling) :
    VarSpec.readAll (vars.map text) = .ok (vars.map meaning) := by
  induction vars with
  | nil => rfl
  | cons first rest inductionHypothesis =>
      rw [List.map_cons, List.map_cons, VarSpec.readAll, first.read_text, inductionHypothesis]

theorem exists_of_readAll {written : List (List Char)} {specs : List VarSpec}
    (accepted : VarSpec.readAll written = .ok specs) :
    ∃ vars : List VarSpelling, vars.map text = written ∧ vars.map meaning = specs := by
  induction written generalizing specs with
  | nil =>
      cases accepted
      exact ⟨[], rfl, rfl⟩
  | cons first rest inductionHypothesis =>
      rw [VarSpec.readAll] at accepted
      split at accepted
      · cases accepted
      · cases accepted
      next spec specs firstRead restRead =>
        cases accepted
        obtain ⟨var, rfl, rfl⟩ := exists_of_read firstRead
        obtain ⟨vars, rfl, rfl⟩ := inductionHypothesis restRead
        exact ⟨var :: vars, rfl, rfl⟩

/-- No variable starts like an operator. -/
theorem exists_cons (spelling : VarSpelling) :
    ∃ c rest, spelling.text = c :: rest ∧ Operator.ofChar? c = none := by
  obtain ⟨c, rest, equality, start⟩ := spelling.isName.exists_cons
  refine ⟨c, rest ++ spelling.modifier.text, by rw [text, equality, List.cons_append], ?_⟩
  cases selected : Operator.ofChar? c with
  | none => rfl
  | some operator =>
      rw [Operator.ofChar?_eq_some_iff] at selected
      rcases start with plain | rfl
      · cases operator <;> cases selected <;> cases plain
      · cases operator <;> cases selected

end VarSpelling

namespace Expression

theorem ofSpecs?_eq_some_iff {operator : Operator} {specs : List VarSpec}
    {expression : Expression} :
    ofSpecs? operator specs = some expression ↔
      operator = expression.operator ∧ specs = expression.specs := by
  obtain ⟨operator', specs', nonempty⟩ := expression
  unfold ofSpecs?
  split
  · simp
  · simp only [reduceCtorEq, false_iff, not_and]
    rintro - rfl
    contradiction

theorem text_of_splitOperator {body rest : List Char} {operator : Operator}
    (split : splitOperator body = (operator, rest)) :
    operator.char?.toList ++ rest = body := by
  revert split
  fun_cases splitOperator body with
  | case1 =>
      rintro ⟨⟩
      rfl
  | case2 c rest operator selected =>
      rintro ⟨⟩
      rw [(Operator.ofChar?_eq_some_iff c operator).mp selected]
      rfl
  | case3 =>
      rintro ⟨⟩
      rfl

end Expression

/-- What stands between two braces as it is written. -/
@[ext]
structure ExpressionSpelling where
  operator : Operator
  vars : List VarSpelling
  vars_ne_nil : vars ≠ []

namespace ExpressionSpelling

/-- The text of the variables, without the operator. -/
def varsText (spelling : ExpressionSpelling) : List Char :=
  [','].intercalate (spelling.vars.map VarSpelling.text)

def text (spelling : ExpressionSpelling) : List Char :=
  spelling.operator.char?.toList ++ spelling.varsText

def meaning (spelling : ExpressionSpelling) : Expression where
  operator := spelling.operator
  specs := spelling.vars.map VarSpelling.meaning
  specs_ne_nil := by simpa using spelling.vars_ne_nil

theorem exists_cons_varsText (spelling : ExpressionSpelling) :
    ∃ c rest, spelling.varsText = c :: rest ∧ Operator.ofChar? c = none := by
  obtain ⟨first, others, equality⟩ := List.exists_cons_of_ne_nil spelling.vars_ne_nil
  obtain ⟨c, rest, firstText, noOperator⟩ := first.exists_cons
  rw [varsText, equality, List.map_cons, firstText]
  cases others with
  | nil => exact ⟨c, rest, by simp, noOperator⟩
  | cons second later =>
      rw [List.map_cons, List.intercalate_cons_cons]
      exact ⟨c, _, rfl, noOperator⟩

/-- The operator is told from the first variable. -/
theorem splitOperator_text (spelling : ExpressionSpelling) :
    Expression.splitOperator spelling.text = (spelling.operator, spelling.varsText) := by
  unfold text
  cases selecting : spelling.operator.char? with
  | none =>
      obtain ⟨c, rest, equality, noOperator⟩ := spelling.exists_cons_varsText
      have simple : spelling.operator = .simple := by
        revert selecting
        cases spelling.operator <;> simp [Operator.char?]
      simp [Expression.splitOperator, equality, noOperator, simple]
  | some c =>
      have selected := (Operator.ofChar?_eq_some_iff c spelling.operator).mpr selecting
      simp [Expression.splitOperator, selected]

theorem text_injective {left right : ExpressionSpelling} (same : left.text = right.text) :
    left = right := by
  have split := right.splitOperator_text
  rw [← same, left.splitOperator_text] at split
  obtain ⟨operators, varsTexts⟩ := Prod.mk.inj split
  have texts : left.vars.map VarSpelling.text = right.vars.map VarSpelling.text := by
    rw [← VarSpelling.splitOn_intercalate_text left.vars_ne_nil,
      ← VarSpelling.splitOn_intercalate_text right.vars_ne_nil]
    exact congrArg (List.splitOn ',') varsTexts
  have injective : Function.Injective VarSpelling.text := fun _ _ => VarSpelling.text_injective
  exact ExpressionSpelling.ext operators (List.map_injective_iff.mpr injective texts)

theorem read_text (spelling : ExpressionSpelling) :
    Expression.read spelling.text = .ok spelling.meaning := by
  obtain ⟨c, rest, equality, -⟩ := spelling.exists_cons_varsText
  have nonempty : ¬ spelling.varsText.isEmpty = true := by simp [equality]
  have built : Expression.ofSpecs? spelling.operator (spelling.vars.map VarSpelling.meaning) =
      some spelling.meaning := Expression.ofSpecs?_eq_some_iff.mpr ⟨rfl, rfl⟩
  simp only [Expression.read, spelling.splitOperator_text, if_neg nonempty]
  rw [varsText, VarSpelling.splitOn_intercalate_text spelling.vars_ne_nil,
    VarSpelling.readAll_map_text]
  simp only [built]

theorem exists_of_read {written : List Char} {expression : Expression}
    (accepted : Expression.read written = .ok expression) :
    ∃ spelling : ExpressionSpelling,
      spelling.text = written ∧ spelling.meaning = expression := by
  cases split : Expression.splitOperator written with
  | mk operator rest =>
      simp only [Expression.read, split] at accepted
      split at accepted
      · cases accepted
      split at accepted
      · cases accepted
      next specs specsRead =>
        obtain ⟨vars, texts, meanings⟩ := VarSpelling.exists_of_readAll specsRead
        have vars_ne_nil : vars ≠ [] := by
          rintro rfl
          exact List.splitOn_ne_nil ',' rest texts.symm
        split at accepted
        next built =>
          cases accepted
          obtain ⟨rfl, rfl⟩ := Expression.ofSpecs?_eq_some_iff.mp built
          refine ⟨⟨expression.operator, vars, vars_ne_nil⟩, ?_, ?_⟩
          · rw [text, varsText, texts, List.intercalate_splitOn]
            exact Expression.text_of_splitOperator split
          · cases expression
            simp_all [meaning]
        next => cases accepted

/-- No expression holds a closing brace. -/
theorem not_mem_text (spelling : ExpressionSpelling) : '\x7d' ∉ spelling.text := by
  intro membership
  rcases List.mem_append.mp membership with inOperator | inVars
  · revert inOperator
    cases spelling.operator <;> decide
  · refine Text.not_mem_intercalate (by decide) ?_ inVars
    intro part inParts
    obtain ⟨var, -, rfl⟩ := List.mem_map.mp inParts
    exact var.not_mem_text (by decide) (by decide) (by decide)

end ExpressionSpelling

end UriExpansion
