import UriExpansion.Proofs.Binding.Equality
import UriExpansion.Proofs.Template.Dependency
import Mathlib.Algebra.Order.Group.Multiset

/-!
Expansions of variables that are the same. The order in which an associative list holds its
pairs does not count when variables are compared, but they are written in this order. So the
expansions need not be equal; they are made up of the same characters, and they are equal if
the pairs stand in the same order.

The characters of a text are counted in a multiset, in which putting texts together is
addition, with or without a separator. What is written of pairs in another order then is a sum
in another order.
-/

namespace UriExpansion

/-- The characters of a text without their order. -/
def characters (text : String) : Multiset Char :=
  text.toList

theorem characters_append (left right : String) :
    characters (left ++ right) = characters left + characters right := by
  simp [characters]

theorem characters_join (texts : List String) :
    characters (String.join texts) = (texts.map characters).sum := by
  induction texts with
  | nil => rfl
  | cons first rest inductionHypothesis =>
      rw [String.join_cons, characters_append, inductionHypothesis, List.map_cons, List.sum_cons]

/-- A separator stands once less than there are texts. -/
theorem characters_intercalate (separator : String) (texts : List String) :
    characters (String.intercalate separator texts) =
      (texts.map characters).sum + (texts.length - 1) • characters separator := by
  induction texts with
  | nil => rfl
  | cons first rest inductionHypothesis =>
      cases rest with
      | nil => simp
      | cons second later =>
          rw [String.intercalate_cons_cons, characters_append, characters_append,
            inductionHypothesis]
          simp only [List.map_cons, List.sum_cons, List.length_cons, Nat.add_sub_cancel,
            succ_nsmul]
          ac_rfl

theorem characters_intercalate_of_perm (separator : String) {left right : List String}
    (rearranged : left.Perm right) :
    characters (String.intercalate separator left) =
      characters (String.intercalate separator right) := by
  rw [characters_intercalate, characters_intercalate, rearranged.length_eq,
    (rearranged.map characters).sum_eq]

theorem eq_empty_iff_of_characters {left right : String}
    (same : characters left = characters right) : left = "" ↔ right = "" := by
  rw [← String.toList_eq_nil_iff, ← String.toList_eq_nil_iff]
  have perm := Multiset.coe_eq_coe.mp same
  exact ⟨fun empty => (empty ▸ perm).nil_eq.symm, fun empty => (empty ▸ perm).eq_nil⟩

variable {operator : Operator} {values values' : Variables}

namespace Contribution

theorem characters_text {name? : Option String} {value value' : String}
    (same : characters value = characters value') :
    characters (text operator ⟨name?, value⟩) = characters (text operator ⟨name?, value'⟩) := by
  cases name? with
  | none => exact same
  | some name =>
      have empty := eq_empty_iff_of_characters same
      by_cases isEmpty : value = ""
      · rw [isEmpty, empty.mp isEmpty]
      · simp [text, isEmpty, mt empty.mpr isEmpty, characters_append, same]

/-- As many contributions, which write the same characters. -/
structure SameCharacters (operator : Operator) (left right : List Contribution) : Prop where
  length : left.length = right.length
  texts : (left.map fun contribution => characters (contribution.text operator)).sum =
    (right.map fun contribution => characters (contribution.text operator)).sum

namespace SameCharacters

theorem refl (contributions : List Contribution) :
    SameCharacters operator contributions contributions :=
  ⟨rfl, rfl⟩

theorem of_perm {left right : List Contribution} (rearranged : left.Perm right) :
    SameCharacters operator left right :=
  ⟨rearranged.length_eq, (rearranged.map _).sum_eq⟩

theorem singleton {name? : Option String} {value value' : String}
    (same : characters value = characters value') :
    SameCharacters operator [⟨name?, value⟩] [⟨name?, value'⟩] :=
  ⟨rfl, by simp [characters_text same]⟩

theorem append {left left' right right' : List Contribution}
    (first : SameCharacters operator left left') (second : SameCharacters operator right right') :
    SameCharacters operator (left ++ right) (left' ++ right') := by
  constructor
  · rw [List.length_append, List.length_append, first.length, second.length]
  · rw [List.map_append, List.map_append, List.sum_append, List.sum_append, first.texts,
      second.texts]

theorem eq_nil_iff {left right : List Contribution}
    (same : SameCharacters operator left right) : left = [] ↔ right = [] := by
  rw [← List.length_eq_zero_iff, ← List.length_eq_zero_iff, same.length]

theorem joined {left right : List Contribution} (same : SameCharacters operator left right) :
    characters (Expression.joined operator left) =
      characters (Expression.joined operator right) := by
  rw [Expression.joined, Expression.joined, characters_intercalate, characters_intercalate,
    List.map_map, List.map_map, List.length_map, List.length_map, same.length]
  exact congrArg (· + _) same.texts

end SameCharacters

end Contribution

open Contribution (SameCharacters)

namespace VarSpec

theorem contributionsOf_of_rearranged (spec : VarSpec) {value value' : Value}
    (rearranged : value.Rearranged value') :
    SameCharacters operator (spec.contributionsOf operator value)
      (spec.contributionsOf operator value') := by
  cases rearranged with
  | refl => exact .refl _
  | @associative left right pairs =>
      have empty : left.isEmpty = right.isEmpty := by
        rw [Bool.eq_iff_iff]
        simp [AssociativeList.isEmpty, pairs.length_eq, ← List.length_eq_zero_iff]
      simp only [contributionsOf, empty]
      split
      · exact .refl _
      split
      · exact .of_perm (pairs.map _)
      · apply SameCharacters.singleton
        exact characters_intercalate_of_perm _ ((pairs.flatMap_right _).map _)

theorem contributions_of_rearranged (spec : VarSpec)
    (rearranged : Option.Rel Value.Rearranged (values.get? spec.name) (values'.get? spec.name)) :
    SameCharacters operator (spec.contributions operator values)
      (spec.contributions operator values') := by
  unfold contributions
  generalize values.get? spec.name = bound at rearranged ⊢
  generalize values'.get? spec.name = bound' at rearranged ⊢
  cases rearranged with
  | none => exact .refl _
  | some rearranged => exact spec.contributionsOf_of_rearranged rearranged

end VarSpec

theorem Expression.characters_expand (expression : Expression)
    (rearranged : ∀ name, Option.Rel Value.Rearranged (values.get? name) (values'.get? name)) :
    characters (expression.expand values) = characters (expression.expand values') := by
  have same : SameCharacters expression.operator (expression.contributions values)
      (expression.contributions values') := by
    unfold contributions
    induction expression.specs with
    | nil => exact .refl _
    | cons spec rest inductionHypothesis =>
        exact (spec.contributions_of_rearranged (rearranged spec.name)).append inductionHypothesis
  by_cases nothing : expression.contributions values = []
  · rw [expand_of_contributions_eq_nil nothing,
      expand_of_contributions_eq_nil (same.eq_nil_iff.mp nothing)]
  · rw [expand_of_contributions_ne_nil nothing,
      expand_of_contributions_ne_nil (mt same.eq_nil_iff.mpr nothing), characters_append,
      characters_append, same.joined]

namespace Template

theorem characters_expand (template : Template)
    (rearranged : ∀ name, Option.Rel Value.Rearranged (values.get? name) (values'.get? name)) :
    characters (template.expand values) = characters (template.expand values') := by
  rw [expand_eq_join, expand_eq_join, characters_join, characters_join, List.map_map,
    List.map_map]
  apply congrArg List.sum
  apply List.map_congr_left
  intro element _
  cases element with
  | literal text => rfl
  | expression body => exact body.characters_expand rearranged

/-- Whether the associative lists that two collections bind to the names of a template hold
their keys in the same order. -/
def InSameOrder (template : Template) (values values' : Variables) : Prop :=
  ∀ name ∈ template.variableNames, ∀ list list' : AssociativeList,
    values.get? name = some (.associative list) → values'.get? name = some (.associative list') →
      list.pairs.map Prod.fst = list'.pairs.map Prod.fst

theorem get?_eq_of_inSameOrder {template : Template}
    (rearranged : ∀ name, Option.Rel Value.Rearranged (values.get? name) (values'.get? name))
    (ordered : template.InSameOrder values values') {name : String}
    (listed : name ∈ template.variableNames) : values.get? name = values'.get? name := by
  have keys := ordered name listed
  have alike := rearranged name
  generalize values.get? name = bound at keys alike ⊢
  generalize values'.get? name = bound' at keys alike ⊢
  cases alike with
  | none => rfl
  | some alike =>
      cases alike with
      | refl => rfl
      | associative pairs => rw [AssociativeList.eq_of_perm pairs (keys _ _ rfl rfl)]

/-- Variables that are the same expand to the same characters, and they expand alike if the
associative lists among them that a template names hold their keys in the same order. -/
theorem expand_of_same {values values' : Variables} (same : (values == values') = true)
    (template : Template) :
    (template.expand values).toList.Perm (template.expand values').toList ∧
      (template.InSameOrder values values' →
        template.expand values = template.expand values') := by
  have rearranged := Variables.rearranged_of_same same
  constructor
  · exact Multiset.coe_eq_coe.mp (template.characters_expand rearranged)
  · intro ordered
    exact expand_congr fun _ listed => get?_eq_of_inSameOrder rearranged ordered listed

/-- Two lists of the same pairs in another order, one of which the first template names. -/
theorem expand_of_same_reordered :
    ∃ (values values' : Variables) (unordered ordered : Template),
      values ≠ values' ∧ (values == values') = true ∧
      read "\x7bx\x7d" = .ok unordered ∧ read "\x7b?y*\x7d" = .ok ordered ∧
      unordered.expand values = "a,1,b,2" ∧ unordered.expand values' = "b,2,a,1" ∧
      (unordered.expand values).toList.Perm (unordered.expand values').toList ∧
      ordered.expand values = ordered.expand values' := by
  let values : Variables := .ofBindings
    [("x", .ofPairs [("a", "1"), ("b", "2")]), ("y", .ofPairs [("c", "3"), ("d", "")])]
  let values' : Variables := .ofBindings
    [("x", .ofPairs [("b", "2"), ("a", "1")]), ("y", .ofPairs [("c", "3"), ("d", "")])]
  have same : (values == values') = true := by decide
  let unordered : Template :=
    ⟨[.expression ⟨.simple, [⟨"x", .plain⟩], List.cons_ne_nil _ _⟩]⟩
  let ordered : Template :=
    ⟨[.expression ⟨.query, [⟨"y", .explode⟩], List.cons_ne_nil _ _⟩]⟩
  refine ⟨values, values', unordered, ordered, by decide, same, by decide,
    by decide, by decide, by decide, (expand_of_same same _).1,
    (expand_of_same same _).2 ?_⟩
  intro name listed list list' bound bound'
  have isY : name = "y" := List.mem_singleton.mp listed
  rw [isY] at bound bound'
  have unchanged : values.get? "y" = values'.get? "y" := by decide
  rw [unchanged] at bound
  cases Option.some.inj (bound.symm.trans bound')
  rfl

/-- Variables that are the same need not expand alike. -/
theorem not_expand_eq_of_same :
    ¬ ∀ (values values' : Variables) (written : String) (template : Template),
      (values == values') = true → read written = .ok template →
        template.expand values = template.expand values' := by
  intro congruence
  have expansions := congruence (.ofBindings [("x", .ofPairs [("a", "1"), ("b", "2")])])
    (.ofBindings [("x", .ofPairs [("b", "2"), ("a", "1")])]) "\x7bx\x7d"
    ⟨[.expression ⟨.simple, [⟨"x", .plain⟩], List.cons_ne_nil _ _⟩]⟩
    (by decide) (by decide)
  revert expansions
  decide

end Template

end UriExpansion
