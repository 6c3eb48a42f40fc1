import UriExpansion.Proofs.Template.Expansion
import Mathlib.Data.List.Forall2

/-!
The rules of expansion, and that expansion follows them. The rules know the operators by
one table, take what every variable contributes as a list of pairs, and render the whole
list of an expression at once.
-/

namespace UriExpansion

/-- A row of the table of operators. -/
structure Descriptor where
  first? : Option Char
  separator : Char
  named : Bool
  allowed : Allowed
  ifEmpty? : Option Char

/-- The table of operators. -/
def Operator.descriptor : Operator → Descriptor
  | simple => ⟨none, ',', false, .unreserved, none⟩
  | reserved => ⟨none, ',', false, .unreservedAndReserved, none⟩
  | fragment => ⟨some '#', ',', false, .unreservedAndReserved, none⟩
  | label => ⟨some '.', '.', false, .unreserved, none⟩
  | pathSegment => ⟨some '/', '/', false, .unreserved, none⟩
  | pathParameter => ⟨some ';', ';', true, .unreserved, none⟩
  | query => ⟨some '?', '&', true, .unreserved, some '='⟩
  | queryContinuation => ⟨some '&', '&', true, .unreserved, some '='⟩

/-- The columns of the operators make up the table. -/
theorem Operator.descriptor_eq (operator : Operator) :
    operator.descriptor =
      ⟨operator.first?, operator.separator, operator.named, operator.allowed,
        operator.ifEmpty?⟩ := by
  cases operator <;> rfl

namespace Descriptor

/-- The name that a variable gives to its values. -/
def nameOf (row : Descriptor) (spec : VarSpec) : Option String :=
  if row.named then some spec.name else none

/-- Write a pair: a name and, unless the value is empty, `=` and the value. -/
def render (row : Descriptor) : Contribution → String
  | ⟨none, value⟩ => value
  | ⟨some name, value⟩ =>
      if value = "" then name ++ String.ofList row.ifEmpty?.toList else name ++ "=" ++ value

/-- The pairs that a variable contributes, by what it is bound to. -/
inductive Contributes (row : Descriptor) (spec : VarSpec) :
    Option Value → List Contribution → Prop
  | unbound : Contributes row spec none []
  | text {text : String} : spec.maxLength? = none →
      Contributes row spec (some (.text text)) [⟨row.nameOf spec, row.allowed.encode text⟩]
  | textUpTo {text : String} {length : Nat} : spec.maxLength? = some length →
      Contributes row spec (some (.text text))
        [⟨row.nameOf spec, row.allowed.encode
          (String.ofList ((Text.Grapheme.clusters text.toList).take length).flatten)⟩]
  | list {items : List String} : spec.isExploded = false →
      Contributes row spec (some (.list items))
        [⟨row.nameOf spec, String.intercalate "," (items.map row.allowed.encode)⟩]
  | explodedList {items : List String} : spec.isExploded = true →
      Contributes row spec (some (.list items))
        (items.map fun item => ⟨row.nameOf spec, row.allowed.encode item⟩)
  | emptyAssociative {list : AssociativeList} : list.pairs = [] →
      Contributes row spec (some (.associative list)) []
  | associative {list : AssociativeList} : list.pairs ≠ [] → spec.isExploded = false →
      Contributes row spec (some (.associative list))
        [⟨row.nameOf spec, String.intercalate ","
          (list.pairs.flatMap fun (key, member) =>
            [row.allowed.encode key, row.allowed.encode member])⟩]
  | explodedAssociative {list : AssociativeList} : list.pairs ≠ [] → spec.isExploded = true →
      Contributes row spec (some (.associative list))
        (list.pairs.map fun (key, member) =>
          ⟨some (row.allowed.encode key), row.allowed.encode member⟩)

end Descriptor

/-- What an element expands to. -/
inductive Element.ExpandsTo (values : Variables) : Element → String → Prop
  | literal {text : String} : ExpandsTo values (.literal text) text
  | silent {body : Expression} {pairs : List (List Contribution)} :
      List.Forall₂ (fun spec => body.operator.descriptor.Contributes spec (values.get? spec.name))
        body.specs pairs →
      pairs.flatten = [] → ExpandsTo values (.expression body) ""
  | written {body : Expression} {pairs : List (List Contribution)} :
      List.Forall₂ (fun spec => body.operator.descriptor.Contributes spec (values.get? spec.name))
        body.specs pairs →
      pairs.flatten ≠ [] →
      ExpandsTo values (.expression body)
        (String.ofList body.operator.descriptor.first?.toList ++
          String.intercalate (String.singleton body.operator.descriptor.separator)
            (pairs.flatten.map body.operator.descriptor.render))

theorem Contribution.text_eq_render (operator : Operator) (contribution : Contribution) :
    contribution.text operator = operator.descriptor.render contribution := by
  obtain ⟨name?, value⟩ := contribution
  rw [operator.descriptor_eq]
  cases name? with
  | none => rfl
  | some name => simp [text, Descriptor.render, String.isEmpty_iff]

namespace VarSpec

/-- Every value of a variable is covered by a rule. -/
theorem contributes_contributionsOf (spec : VarSpec) (operator : Operator) (value : Value) :
    operator.descriptor.Contributes spec (some value) (spec.contributionsOf operator value) := by
  obtain ⟨name, modifier⟩ := spec
  rw [operator.descriptor_eq]
  cases value with
  | text text =>
      cases modifier with
      | plain => exact .text rfl
      | explode => exact .text rfl
      | upTo length positive bounded => exact .textUpTo rfl
  | list items =>
      cases modifier with
      | explode => exact .explodedList rfl
      | plain => exact .list rfl
      | upTo length positive bounded => exact .list rfl
  | associative list =>
      by_cases empty : list.pairs = []
      · have nothing : contributionsOf ⟨name, modifier⟩ operator (.associative list) = [] := by
          simp [contributionsOf, AssociativeList.isEmpty, empty]
        rw [nothing]
        exact .emptyAssociative empty
      · cases exploded : isExploded ⟨name, modifier⟩ with
        | false =>
            simp only [contributionsOf, AssociativeList.isEmpty, List.isEmpty_iff, empty,
              exploded, Allowed.encodeJoined, List.map_flatMap, List.map_cons, List.map_nil,
              if_false, Bool.false_eq_true]
            exact .associative empty exploded
        | true =>
            simp only [contributionsOf, AssociativeList.isEmpty, List.isEmpty_iff, empty,
              exploded, if_false, if_true]
            exact .explodedAssociative empty exploded

theorem eq_contributionsOf_of_contributes {spec : VarSpec} {operator : Operator}
    {value : Value} {pairs : List Contribution}
    (derived : operator.descriptor.Contributes spec (some value) pairs) :
    spec.contributionsOf operator value = pairs := by
  obtain ⟨name, modifier⟩ := spec
  rw [operator.descriptor_eq] at derived
  cases derived with
  | text whole =>
      cases modifier with
      | upTo => cases whole
      | plain | explode => rfl
  | textUpTo cut =>
      cases modifier with
      | plain | explode => cases cut
      | upTo =>
          cases cut
          rfl
  | list together =>
      simp [contributionsOf, together, Descriptor.nameOf, Allowed.encodeJoined]
  | explodedList exploded => simp [contributionsOf, exploded, Descriptor.nameOf]
  | emptyAssociative empty => simp [contributionsOf, AssociativeList.isEmpty, empty]
  | associative nonempty together =>
      simp [contributionsOf, AssociativeList.isEmpty, nonempty, together, Descriptor.nameOf,
        Allowed.encodeJoined, List.map_flatMap]
  | explodedAssociative nonempty exploded =>
      simp [contributionsOf, AssociativeList.isEmpty, nonempty, exploded]

theorem contributes_iff {spec : VarSpec} {operator : Operator} {values : Variables}
    {pairs : List Contribution} :
    operator.descriptor.Contributes spec (values.get? spec.name) pairs ↔
      spec.contributions operator values = pairs := by
  unfold contributions
  cases values.get? spec.name with
  | none =>
      constructor
      · rintro ⟨⟩
        rfl
      · rintro rfl
        exact .unbound
  | some value =>
      constructor
      · exact eq_contributionsOf_of_contributes
      · rintro rfl
        exact spec.contributes_contributionsOf operator value

end VarSpec

namespace Expression

/-- The rules hold of the contributions of the variables and of nothing else. -/
theorem forall₂_contributes_iff {expression : Expression} {values : Variables}
    {pairs : List (List Contribution)} :
    List.Forall₂ (fun spec =>
        expression.operator.descriptor.Contributes spec (values.get? spec.name))
      expression.specs pairs ↔
      expression.specs.map (VarSpec.contributions · expression.operator values) = pairs := by
  have rules : (fun spec => expression.operator.descriptor.Contributes spec
      (values.get? spec.name)) =
        fun spec pairs => spec.contributions expression.operator values = pairs :=
    funext fun _ => funext fun _ => propext VarSpec.contributes_iff
  rw [rules, ← List.forall₂_map_left_iff, List.forall₂_eq_eq_eq]

theorem forall₂_contributes (expression : Expression) (values : Variables) :
    List.Forall₂ (fun spec =>
        expression.operator.descriptor.Contributes spec (values.get? spec.name))
      expression.specs
      (expression.specs.map (VarSpec.contributions · expression.operator values)) :=
  forall₂_contributes_iff.mpr rfl

theorem flatten_of_forall₂_contributes {expression : Expression} {values : Variables}
    {pairs : List (List Contribution)}
    (derived : List.Forall₂ (fun spec =>
        expression.operator.descriptor.Contributes spec (values.get? spec.name))
      expression.specs pairs) :
    pairs.flatten = expression.contributions values := by
  rw [← forall₂_contributes_iff.mp derived, contributions, List.flatMap_def]

theorem expand_eq_render {expression : Expression} {values : Variables}
    (something : expression.contributions values ≠ []) :
    expression.expand values =
      String.ofList expression.operator.descriptor.first?.toList ++
        String.intercalate (String.singleton expression.operator.descriptor.separator)
          ((expression.contributions values).map expression.operator.descriptor.render) := by
  rw [expand_of_contributions_ne_nil something, joined,
    funext (Contribution.text_eq_render expression.operator),
    expression.operator.descriptor_eq]

end Expression

theorem Element.expandsTo_iff {values : Variables} {element : Element} {output : String} :
    element.ExpandsTo values output ↔ element.expand values = output := by
  constructor
  · intro derived
    cases derived with
    | literal => rfl
    | silent pairs nothing =>
        rw [Expression.flatten_of_forall₂_contributes pairs] at nothing
        exact Expression.expand_of_contributions_eq_nil nothing
    | written pairs something =>
        rw [Expression.flatten_of_forall₂_contributes pairs] at something ⊢
        exact Expression.expand_eq_render something
  · rintro rfl
    cases element with
    | literal text => exact .literal
    | expression body =>
        have pairs := body.forall₂_contributes values
        have all := Expression.flatten_of_forall₂_contributes pairs
        by_cases nothing : body.contributions values = []
        · rw [Element.expand, Expression.expand_of_contributions_eq_nil nothing]
          exact .silent pairs (all.trans nothing)
        · rw [Element.expand, Expression.expand_eq_render nothing, ← all]
          exact .written pairs (all ▸ nothing)

/-- Expansion is concatenation of what the rules say of each element. -/
theorem Template.expand_eq_iff_expandsTo (template : Template) (values : Variables)
    (output : String) :
    template.expand values = output ↔
      ∃ parts : List String,
        List.Forall₂ (Element.ExpandsTo values) template.elements parts ∧
          output = String.join parts := by
  have rules : Element.ExpandsTo values = fun element part => element.expand values = part :=
    funext fun _ => funext fun _ => propext Element.expandsTo_iff
  simp only [rules, ← List.forall₂_map_left_iff (f := Element.expand values),
    List.forall₂_eq_eq_eq, exists_eq_left']
  rw [template.expand_eq_join values]
  exact eq_comm

end UriExpansion
