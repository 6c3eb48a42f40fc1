import UriExpansion.Proofs.Template.Modifier
import UriExpansion.Proofs.Template.Rearrangement
import Mathlib.Algebra.GroupWithZero.Nat

/-!
Exploded associative lists. Every member is written as its key, the equals sign and its value,
apart from members whose value is empty: behind their keys stands what the operator puts behind
the name of an empty value, for operators that do not name values as well. So a key without a
value loses the equals sign under all operators but those of queries.
-/

namespace UriExpansion

theorem length_intercalate (separator : String) (texts : List String) :
    (String.intercalate separator texts).length =
      (texts.map String.length).sum + (texts.length - 1) * separator.length := by
  have cards (texts : List String) :
      Multiset.card (texts.map characters).sum = (texts.map String.length).sum := by
    induction texts with
    | nil => rfl
    | cons first rest inductionHypothesis =>
        rw [List.map_cons, List.sum_cons, Multiset.card_add, inductionHypothesis, List.map_cons,
          List.sum_cons]
        rfl
  have counted := congrArg Multiset.card (characters_intercalate separator texts)
  rw [Multiset.card_add, Multiset.card_nsmul, cards] at counted
  exact counted

namespace Operator

variable {operator : Operator} {pairs : List (String × String)}

/-- A member as its key, an equals sign and its value. -/
def equationText (operator : Operator) (pair : String × String) : String :=
  operator.allowed.encode pair.1 ++ "=" ++ operator.allowed.encode pair.2

/-- A member as an exploded list writes it. -/
def memberText (operator : Operator) (pair : String × String) : String :=
  if pair.2 = "" then operator.allowed.encode pair.1 ++ String.ofList operator.ifEmpty?.toList
  else operator.equationText pair

/-- Members with the first character of the operator in front and separators in between, or
nothing if there are no members. -/
def membersText (operator : Operator) (write : String × String → String)
    (pairs : List (String × String)) : String :=
  if pairs = [] then ""
  else String.ofList operator.first?.toList ++
    String.intercalate (String.singleton operator.separator) (pairs.map write)

theorem equationText_of_empty {pair : String × String} (empty : pair.2 = "") :
    operator.equationText pair = operator.allowed.encode pair.1 ++ "=" := by
  have nothing := (operator.allowed.encode_eq_empty_iff pair.2).mpr empty
  rw [equationText, nothing, String.append_empty]

theorem text_eq_memberText (operator : Operator) (pair : String × String) :
    Contribution.text operator
        ⟨some (operator.allowed.encode pair.1), operator.allowed.encode pair.2⟩ =
      operator.memberText pair := by
  by_cases empty : pair.2 = ""
  · have nothing := (operator.allowed.encode_eq_empty_iff pair.2).mpr empty
    rw [memberText, if_pos empty, nothing]
    rfl
  · have something := mt (operator.allowed.encode_eq_empty_iff pair.2).mp empty
    simp [Contribution.text, memberText, equationText, empty, something]

/-- Two ways to write members, one of which is never longer and once shorter. -/
theorem membersText_ne_of_lt {write write' : String × String → String}
    (noLonger : ∀ pair ∈ pairs, (write pair).length ≤ (write' pair).length)
    (shorter : ∃ pair ∈ pairs, (write pair).length < (write' pair).length) :
    operator.membersText write pairs ≠ operator.membersText write' pairs := by
  intro same
  have nonempty : pairs ≠ [] := by
    rintro rfl
    obtain ⟨_, membership, _⟩ := shorter
    cases membership
  have lengths := congrArg String.length same
  have sums := List.sum_lt_sum (fun pair => (write pair).length)
    (fun pair => (write' pair).length) noLonger shorter
  simp only [membersText, if_neg nonempty, String.length_append, length_intercalate,
    List.map_map, List.length_map, Function.comp_def] at lengths
  omega

theorem length_memberText_le (operator : Operator) (pair : String × String) :
    (operator.memberText pair).length ≤ (operator.equationText pair).length := by
  by_cases empty : pair.2 = ""
  · have atMostOne : operator.ifEmpty?.toList.length ≤ 1 := by cases operator <;> decide
    rw [memberText, if_pos empty, equationText_of_empty empty, String.length_append,
      String.length_append, String.length_ofList]
    exact Nat.add_le_add_left atMostOne _
  · rw [memberText, if_neg empty]

/-- Members are written as equations by the operators of queries, and by the others if no
value is empty. -/
theorem membersText_memberText_eq_iff :
    operator.membersText operator.memberText pairs =
        operator.membersText operator.equationText pairs ↔
      (operator = .query ∨ operator = .queryContinuation) ∨ ∀ pair ∈ pairs, pair.2 ≠ "" := by
  constructor
  · intro same
    by_contra otherwise
    obtain ⟨noQuery, someEmpty⟩ := not_or.mp otherwise
    have noSign : operator.ifEmpty? = none := by
      revert noQuery
      cases operator <;> decide
    obtain ⟨pair, membership, empty⟩ : ∃ pair ∈ pairs, pair.2 = "" := by
      simpa using someEmpty
    refine membersText_ne_of_lt (fun pair _ => operator.length_memberText_le pair)
      ⟨pair, membership, ?_⟩ same
    have noCharacter : (String.ofList (Option.toList none)).length = 0 := rfl
    have oneCharacter : "=".length = 1 := rfl
    rw [memberText, if_pos empty, noSign, equationText_of_empty empty, String.length_append,
      String.length_append, noCharacter, oneCharacter]
    exact Nat.lt_succ_self _
  · intro equations
    have alike : ∀ pair ∈ pairs, operator.memberText pair = operator.equationText pair := by
      intro pair membership
      by_cases empty : pair.2 = ""
      · have sign : operator.ifEmpty? = some '=' := by
          rcases equations with (rfl | rfl) | nonempty
          · rfl
          · rfl
          · exact absurd empty (nonempty pair membership)
        rw [memberText, if_pos empty, equationText_of_empty empty, sign]
        rfl
      · rw [memberText, if_neg empty]
    rw [membersText, membersText, List.map_congr_left alike]

end Operator

theorem VarSpec.contributionsOf_exploded_associative {spec : VarSpec}
    (exploded : spec.isExploded = true) (operator : Operator) (list : AssociativeList) :
    spec.contributionsOf operator (.associative list) =
      list.pairs.map fun pair =>
        ⟨some (operator.allowed.encode pair.1), operator.allowed.encode pair.2⟩ := by
  simp only [contributionsOf, exploded, if_true, AssociativeList.isEmpty]
  split
  next empty => rw [List.isEmpty_iff.mp empty, List.map_nil]
  next => rfl

theorem Expression.expand_of_members {expression : Expression} {values : Variables}
    {pairs : List (String × String)}
    (contributed : expression.contributions values = pairs.map fun pair =>
      ⟨some (expression.operator.allowed.encode pair.1),
        expression.operator.allowed.encode pair.2⟩) :
    expression.expand values =
      expression.operator.membersText expression.operator.memberText pairs := by
  by_cases empty : pairs = []
  · rw [empty, List.map_nil] at contributed
    rw [expand_of_contributions_eq_nil contributed, Operator.membersText, if_pos empty]
  · have something : expression.contributions values ≠ [] := by
      rw [contributed]
      exact mt List.map_eq_nil_iff.mp empty
    have texts : (expression.contributions values).map (Contribution.text expression.operator) =
        pairs.map expression.operator.memberText := by
      rw [contributed, List.map_map]
      apply List.map_congr_left
      intro pair _
      rw [Function.comp_apply, Operator.text_eq_memberText]
    rw [expand_of_contributions_ne_nil something, joined, texts, Operator.membersText,
      if_neg empty]

namespace ExpressionSpelling

variable {name : List Char}

theorem expansion_exploded (operator : Operator) (isName : VariableName.IsName name)
    (values : Variables) (list : AssociativeList) :
    expansion (among operator [] ⟨name, isName, .explode⟩ [])
        (values.insert (String.ofList name) (.associative list)) =
      .ok (operator.membersText operator.memberText list.pairs) := by
  have bound := contributions_of_insert operator isName .explode values (.associative list)
  have contributed := contributions_among operator [] [] ⟨name, isName, .explode⟩
    (values.insert (String.ofList name) (.associative list))
  rw [bound, VarSpec.contributionsOf_exploded_associative rfl, List.flatMap_nil, List.nil_append,
    List.append_nil] at contributed
  rw [expansion_eq, Expression.expand_of_members contributed]
  rfl

/-- What an exploded associative list is written as, and when this is an equation for each of
its members: always behind the operators of queries, and otherwise if no value is empty. -/
theorem expansion_exploded_members (operator : Operator) (isName : VariableName.IsName name)
    (values : Variables) (list : AssociativeList) :
    let expands := expansion (among operator [] ⟨name, isName, .explode⟩ [])
      (values.insert (String.ofList name) (.associative list))
    expands = .ok (operator.membersText operator.memberText list.pairs) ∧
      (expands = .ok (operator.membersText operator.equationText list.pairs) ↔
        (operator = .query ∨ operator = .queryContinuation) ∨
          ∀ pair ∈ list.pairs, pair.2 ≠ "") := by
  intro expands
  have written : expands = .ok (operator.membersText operator.memberText list.pairs) :=
    expansion_exploded operator isName values list
  refine ⟨written, ?_⟩
  rw [written, Except.ok.injEq, Operator.membersText_memberText_eq_iff]

/-- A key without a value and one with a value behind a label. -/
theorem expansion_exploded_members_label :
    ∃ spelling : ExpressionSpelling,
      spelling.bracedText = "\x7b.x*\x7d" ∧
      spelling.expansion (.ofBindings [("x", .ofPairs [("a", ""), ("b", "c")])]) =
        .ok ".a.b=c" ∧
      spelling.expansion (.ofBindings [("x", .ofPairs [("a", ""), ("b", "c")])]) ≠
        .ok ".a=.b=c" := by
  let isName : VariableName.IsName ['x'] := VariableName.isValid_iff_isName.mp (by decide)
  let list : AssociativeList := .ofPairs [("a", ""), ("b", "c")]
  obtain ⟨written, equations⟩ := expansion_exploded_members .label isName .empty list
  have equationsText : Operator.membersText .label (Operator.equationText .label) list.pairs =
      ".a=.b=c" := by decide
  have membersText : Operator.membersText .label (Operator.memberText .label) list.pairs =
      ".a.b=c" := by decide
  rw [equationsText] at equations
  rw [membersText] at written
  exact ⟨_, by decide, written, mt equations.mp (by decide)⟩

/-- A key without a value is not written as an equation where values have no names. -/
theorem not_exploded_members_are_equations :
    ¬ ∀ (operator : Operator) (name : List Char) (isName : VariableName.IsName name)
      (values : Variables) (list : AssociativeList), operator ≠ .pathParameter →
        expansion (among operator [] ⟨name, isName, .explode⟩ [])
            (values.insert (String.ofList name) (.associative list)) =
          .ok (operator.membersText operator.equationText list.pairs) := by
  intro equations
  have written := equations .simple ['x'] (VariableName.isValid_iff_isName.mp (by decide)) .empty
    (.ofPairs [("a", "")]) (by decide)
  revert written
  decide

end ExpressionSpelling

end UriExpansion
