import UriExpansion.Proofs.Template.Expansion
import UriExpansion.Proofs.Template.Grammar

/-!
Splitting an expression at a comma. Variables that contribute nothing may be left out; if
variables on both sides of the comma contribute, the expansion is that of the variables in
front of it followed by that of the others, under the operator that goes on where the first
expression has ended.
-/

namespace UriExpansion

namespace Operator

/-- The operator of an expression that goes on behind another one. It encodes and names
values in the same way. -/
def continuation : Operator → Operator
  | query => queryContinuation
  | fragment => reserved
  | other => other

/-- What has to stand in front of an expression that goes on behind another one, as far as
its operator does not write it. -/
def glue : Operator → String
  | simple | reserved | fragment => ","
  | _ => ""

variable (operator : Operator)

@[simp]
theorem separator_continuation : operator.continuation.separator = operator.separator := by
  cases operator <;> rfl

@[simp]
theorem named_continuation : operator.continuation.named = operator.named := by
  cases operator <;> rfl

@[simp]
theorem allowed_continuation : operator.continuation.allowed = operator.allowed := by
  cases operator <;> rfl

@[simp]
theorem ifEmpty?_continuation : operator.continuation.ifEmpty? = operator.ifEmpty? := by
  cases operator <;> rfl

/-- The expression that goes on starts with the separator. -/
theorem glue_append_first? :
    operator.glue ++ String.ofList operator.continuation.first?.toList =
      String.singleton operator.separator := by
  cases operator <;> decide

end Operator

theorem Contribution.text_continuation (operator : Operator) :
    Contribution.text operator.continuation = Contribution.text operator := by
  funext contribution
  simp [text]

namespace VarSpec

/-- A variable that contributes nothing: it is not bound, or its value holds nothing that
would be written. -/
inductive IsSilent (spec : VarSpec) (values : Variables) : Prop
  | unbound : values.get? spec.name = none → IsSilent spec values
  | emptyAssociative {list : AssociativeList} :
      values.get? spec.name = some (.associative list) → list.pairs = [] → IsSilent spec values
  | explodedEmptyList :
      values.get? spec.name = some (.list []) → spec.isExploded = true → IsSilent spec values

theorem contributions_eq_nil_iff {spec : VarSpec} {operator : Operator} {values : Variables} :
    spec.contributions operator values = [] ↔ spec.IsSilent values := by
  constructor
  · intro nothing
    cases bound : values.get? spec.name with
    | none => exact .unbound bound
    | some value =>
        rw [contributions, bound] at nothing
        cases value with
        | text text => cases nothing
        | list items =>
            by_cases exploded : spec.isExploded = true
            · have empty : items = [] := by simpa [contributionsOf, exploded] using nothing
              exact .explodedEmptyList (empty ▸ bound) exploded
            · simp [contributionsOf, exploded] at nothing
        | associative list =>
            by_cases empty : list.pairs = []
            · exact .emptyAssociative bound empty
            · cases exploded : spec.isExploded <;>
                simp [contributionsOf, AssociativeList.isEmpty, empty, exploded] at nothing
  · rintro (unbound | ⟨bound, empty⟩ | ⟨bound, exploded⟩)
    · rw [contributions, unbound]
    · simp [contributions, bound, contributionsOf, AssociativeList.isEmpty, empty]
    · simp [contributions, bound, contributionsOf, exploded]

theorem contributions_continuation (spec : VarSpec) (operator : Operator) (values : Variables) :
    spec.contributions operator.continuation values = spec.contributions operator values := by
  unfold contributions
  cases values.get? spec.name with
  | none => rfl
  | some value => simp [contributionsOf]

end VarSpec

namespace Expression

variable {operator : Operator} {values : Variables}

theorem contributions_eq_nil_iff {expression : Expression} :
    expression.contributions values = [] ↔ ∀ spec ∈ expression.specs, spec.IsSilent values := by
  simp [contributions, List.flatMap_eq_nil_iff, VarSpec.contributions_eq_nil_iff]

/-- The expression with the same variables that goes on behind another one. -/
def continued (expression : Expression) : Expression :=
  { expression with operator := expression.operator.continuation }

theorem contributions_continued (expression : Expression) (values : Variables) :
    expression.continued.contributions values = expression.contributions values := by
  simp [contributions, continued, VarSpec.contributions_continuation]

theorem joined_continuation (contributions : List Contribution) :
    joined operator.continuation contributions = joined operator contributions := by
  rw [joined, joined, operator.separator_continuation, Contribution.text_continuation]

/-- An expression that goes on writes the separator in front of its values. -/
theorem glue_append_expand_continued {expression : Expression}
    (something : expression.contributions values ≠ []) :
    expression.operator.glue ++ expression.continued.expand values =
      String.singleton expression.operator.separator ++
        joined expression.operator (expression.contributions values) := by
  rw [← expression.contributions_continued] at something
  rw [expand_of_contributions_ne_nil something, expression.contributions_continued, continued,
    joined_continuation, ← String.append_assoc, Operator.glue_append_first?]

/-- The variables of two expressions with one operator, in one expression. -/
structure IsSplit (whole left right : Expression) : Prop where
  leftOperator : left.operator = whole.operator
  rightOperator : right.operator = whole.operator
  specs : whole.specs = left.specs ++ right.specs

namespace IsSplit

variable {whole left right : Expression}

theorem contributions (split : IsSplit whole left right) (values : Variables) :
    whole.contributions values = left.contributions values ++ right.contributions values := by
  simp only [Expression.contributions, split.specs, split.leftOperator, split.rightOperator,
    List.flatMap_append]

theorem expand_of_left_silent (split : IsSplit whole left right)
    (silent : left.contributions values = []) : whole.expand values = right.expand values := by
  rw [expand_eq_foldl, expand_eq_foldl, split.contributions, silent, split.rightOperator,
    List.nil_append]

theorem expand_of_right_silent (split : IsSplit whole left right)
    (silent : right.contributions values = []) : whole.expand values = left.expand values := by
  rw [expand_eq_foldl, expand_eq_foldl, split.contributions, silent, split.leftOperator,
    List.append_nil]

theorem expand_of_both (split : IsSplit whole left right)
    (leftWrites : left.contributions values ≠ []) (rightWrites : right.contributions values ≠ []) :
    whole.expand values =
      left.expand values ++ (whole.operator.glue ++ right.continued.expand values) := by
  have wholeWrites : whole.contributions values ≠ [] := by
    rw [split.contributions]
    exact List.append_ne_nil_of_left_ne_nil leftWrites _
  rw [← split.rightOperator, glue_append_expand_continued rightWrites,
    expand_of_contributions_ne_nil wholeWrites, expand_of_contributions_ne_nil leftWrites,
    split.contributions, joined_append _ leftWrites rightWrites, split.leftOperator,
    split.rightOperator]
  simp only [String.append_assoc]

end IsSplit

end Expression

namespace ExpressionSpelling

/-- The text of a template that is one expression alone. -/
def bracedText (spelling : ExpressionSpelling) : String :=
  "\x7b" ++ String.ofList spelling.text ++ "\x7d"

theorem read_bracedText (spelling : ExpressionSpelling) :
    Template.read spelling.bracedText = .ok ⟨[.expression spelling.meaning]⟩ := by
  let nothing : LiteralRun := ⟨[], List.not_mem_nil⟩
  let alone : TemplateSpelling := .braced nothing spelling (.last nothing)
  have spelled : alone.text = spelling.bracedText.toList := by
    simp [alone, nothing, TemplateSpelling.text, bracedText]
  exact TemplateSpelling.read_of_text spelled

/-- What the template that is one expression alone expands to. -/
def expansion (spelling : ExpressionSpelling) (values : Variables) :
    Except TemplateError String :=
  (Template.read spelling.bracedText).map (Template.expand · values)

theorem expansion_eq (spelling : ExpressionSpelling) (values : Variables) :
    spelling.expansion values = .ok (spelling.meaning.expand values) := by
  rw [expansion, read_bracedText, Except.map, Template.expand_eq_join]
  simp [Element.expand]

theorem isSplit_meaning (operator : Operator) {left right : List VarSpelling}
    (leftNonempty : left ≠ []) (rightNonempty : right ≠ []) (nonempty : left ++ right ≠ []) :
    Expression.IsSplit (meaning ⟨operator, left ++ right, nonempty⟩)
      (meaning ⟨operator, left, leftNonempty⟩) (meaning ⟨operator, right, rightNonempty⟩) :=
  ⟨rfl, rfl, List.map_append⟩

theorem contributions_meaning_eq_nil_iff {spelling : ExpressionSpelling} {values : Variables} :
    spelling.meaning.contributions values = [] ↔
      ∀ var ∈ spelling.vars, var.meaning.IsSilent values := by
  rw [Expression.contributions_eq_nil_iff, meaning, List.forall_mem_map]

theorem contributions_meaning_ne_nil_iff {spelling : ExpressionSpelling} {values : Variables} :
    spelling.meaning.contributions values ≠ [] ↔
      ∃ var ∈ spelling.vars, ¬ var.meaning.IsSilent values := by
  simp [contributions_meaning_eq_nil_iff]

/-- An expression may be split at any comma. A side that contributes nothing may be left
out; otherwise the expansions of both sides are put together, the one behind the comma with
the operator that goes on. -/
theorem expansion_append (operator : Operator) {left right : List VarSpelling}
    (leftNonempty : left ≠ []) (rightNonempty : right ≠ []) (values : Variables) :
    ∃ first second continued whole : String,
      expansion ⟨operator, left, leftNonempty⟩ values = .ok first ∧
      expansion ⟨operator, right, rightNonempty⟩ values = .ok second ∧
      expansion ⟨operator.continuation, right, rightNonempty⟩ values = .ok continued ∧
      expansion ⟨operator, left ++ right, List.append_ne_nil_of_left_ne_nil leftNonempty right⟩
        values = .ok whole ∧
      ((∀ var ∈ left, var.meaning.IsSilent values) → whole = second) ∧
      ((∀ var ∈ right, var.meaning.IsSilent values) → whole = first) ∧
      ((∃ var ∈ left, ¬ var.meaning.IsSilent values) →
        (∃ var ∈ right, ¬ var.meaning.IsSilent values) →
          whole = first ++ (operator.glue ++ continued)) := by
  have split := isSplit_meaning operator leftNonempty rightNonempty
    (List.append_ne_nil_of_left_ne_nil leftNonempty right)
  refine ⟨_, _, _, _, expansion_eq _ _, expansion_eq _ _, expansion_eq _ _, expansion_eq _ _,
    fun silent => ?_, fun silent => ?_, fun leftWrites rightWrites => ?_⟩
  · exact split.expand_of_left_silent (contributions_meaning_eq_nil_iff.mpr silent)
  · exact split.expand_of_right_silent (contributions_meaning_eq_nil_iff.mpr silent)
  · exact split.expand_of_both (contributions_meaning_ne_nil_iff.mpr leftWrites)
      (contributions_meaning_ne_nil_iff.mpr rightWrites)

/-- Two variables in front of the comma, of which the first is not bound, and an empty text
behind it. -/
theorem expansion_append_unbound_first :
    ∃ (left right : List VarSpelling) (leftNonempty : left ≠ []) (rightNonempty : right ≠ []),
      bracedText ⟨.query, left, leftNonempty⟩ = "\x7b?a,list*\x7d" ∧
      bracedText ⟨.query, right, rightNonempty⟩ = "\x7b?b:03\x7d" ∧
      expansion ⟨.query, left ++ right, List.append_ne_nil_of_left_ne_nil leftNonempty right⟩
          (.ofBindings [("list", .list ["x", ""]), ("b", .text "")]) =
        .ok ("?list=x&list=" ++ "&b=") := by
  let list : VarSpelling := ⟨"list".toList, VariableName.isValid_iff_isName.mp (by decide), .explode⟩
  let left : List VarSpelling :=
    [⟨['a'], VariableName.isValid_iff_isName.mp (by decide), .plain⟩, list]
  let start : VarSpelling := ⟨['b'], VariableName.isValid_iff_isName.mp (by decide),
    .upTo ⟨['0', '3'], List.all_eq_true.mp rfl, by decide, by decide, by decide⟩⟩
  let values : Variables := .ofBindings [("list", .list ["x", ""]), ("b", .text "")]
  refine ⟨left, [start], List.cons_ne_nil _ _, List.cons_ne_nil _ _, by decide +kernel,
    by decide +kernel, ?_⟩
  obtain ⟨first, second, continued, whole, expandsFirst, -, expandsContinued, expandsWhole, -, -,
    together⟩ := expansion_append .query (show left ≠ [] from List.cons_ne_nil _ _)
      (show [start] ≠ [] from List.cons_ne_nil _ _) values
  have isFirst : expansion ⟨.query, left, List.cons_ne_nil _ _⟩ values =
      .ok "?list=x&list=" := by
    decide +kernel
  have isContinued : expansion ⟨.queryContinuation, [start], List.cons_ne_nil _ _⟩ values =
      .ok "&b=" := by
    decide +kernel
  have listWrites : list.meaning.contributions .query values ≠ [] := by decide +kernel
  have startWrites : start.meaning.contributions .query values ≠ [] := by decide +kernel
  obtain rfl := Except.ok.inj (expandsFirst.symm.trans isFirst)
  obtain rfl := Except.ok.inj (expandsContinued.symm.trans isContinued)
  rw [expandsWhole, together
    ⟨list, List.mem_cons_of_mem _ List.mem_cons_self,
      VarSpec.contributions_eq_nil_iff.not.mp listWrites⟩
    ⟨start, List.mem_cons_self, VarSpec.contributions_eq_nil_iff.not.mp startWrites⟩]
  rfl

end ExpressionSpelling

end UriExpansion
