import UriExpansion.Proofs.Binding.Lookup
import UriExpansion.Proofs.Template.Canonical
import UriExpansion.Proofs.Template.Shape
import UriExpansion.Service.Basic
import Mathlib.Algebra.Order.BigOperators.Group.List
import Mathlib.Algebra.Order.Group.Nat

/-!
The variables that an expansion depends on are the ones that the template lists. Variables
that bind the listed names alike expand alike, and none of the names is listed in vain:
whatever the other variables are, a text for a name makes the expansion longer than no value
does, wherever and however often the name stands.
-/

namespace UriExpansion

variable {operator : Operator} {values values' : Variables} {name text : String}

namespace Contribution

/-- The length of what contributions write, with one more character for each of them. -/
def weight (operator : Operator) : List Contribution → Nat
  | [] => 0
  | contribution :: rest => (contribution.text operator).length + 1 + weight operator rest

@[simp]
theorem weight_nil : weight operator [] = 0 := rfl

theorem weight_append (left right : List Contribution) :
    weight operator (left ++ right) = weight operator left + weight operator right := by
  induction left with
  | nil => simp
  | cons contribution rest inductionHypothesis =>
      rw [List.cons_append, weight, weight, inductionHypothesis]
      omega

theorem text_ne_empty {contribution : Contribution} (nonempty : contribution.value ≠ "") :
    contribution.text operator ≠ "" := by
  obtain ⟨name?, value⟩ := contribution
  have written : value ≠ "" := nonempty
  cases name? with
  | none => exact written
  | some given => simp [text, written]

end Contribution

namespace VarSpec

open Contribution (weight)

theorem contributions_congr {spec : VarSpec}
    (alike : values.get? spec.name = values'.get? spec.name) :
    spec.contributions operator values = spec.contributions operator values' := by
  unfold contributions
  rw [alike]

theorem contributions_of_unbound {spec : VarSpec} (unbound : values.get? spec.name = none) :
    spec.contributions operator values = [] := by
  simp [contributions, unbound]

theorem contributions_of_text {spec : VarSpec}
    (bound : values.get? spec.name = some (.text text)) :
    spec.contributions operator values =
      [⟨if operator.named then some spec.name else none,
        operator.allowed.encode (spec.modifier.apply text)⟩] := by
  simp [contributions, bound, contributionsOf]

theorem two_le_weight {spec : VarSpec} (bound : values.get? spec.name = some (.text text))
    (nonempty : text ≠ "") : 2 ≤ weight operator (spec.contributions operator values) := by
  have encoded : operator.allowed.encode (spec.modifier.apply text) ≠ "" := by
    rw [ne_eq, Allowed.encode_eq_empty_iff, Modifier.apply_eq_empty_iff]
    exact nonempty
  have written : 0 < (Contribution.text operator
      ⟨if operator.named then some spec.name else none,
        operator.allowed.encode (spec.modifier.apply text)⟩).length := by
    apply Nat.pos_of_ne_zero
    rw [ne_eq, String.length_eq_zero_iff]
    exact Contribution.text_ne_empty encoded
  rw [contributions_of_text bound]
  rw [weight, weight]
  omega

/-- Each time that a name stands among variables, a text for it adds to what they write. -/
theorem weight_flatMap_contributions (operator : Operator) (values : Variables) (name : String)
    (nonempty : text ≠ "") (specs : List VarSpec) :
    weight operator (specs.flatMap (·.contributions operator (values.erase name))) +
        2 * (specs.map VarSpec.name).count name ≤
      weight operator
        (specs.flatMap (·.contributions operator (values.insert name (.text text)))) := by
  induction specs with
  | nil => simp
  | cons spec rest inductionHypothesis =>
      simp only [List.flatMap_cons, Contribution.weight_append, List.map_cons]
      by_cases same : spec.name = name
      · have unbound : (values.erase name).get? spec.name = none := by simp [same]
        have bound : (values.insert name (.text text)).get? spec.name = some (.text text) := by
          simp [same]
        have heavy : 2 ≤ weight operator _ := two_le_weight bound nonempty
        rw [contributions_of_unbound unbound, Contribution.weight_nil, same, List.count_cons_self]
        omega
      · have alike : (values.erase name).get? spec.name =
            (values.insert name (.text text)).get? spec.name := by simp [same]
        rw [contributions_congr alike, List.count_cons_of_ne same]
        omega

end VarSpec

namespace Expression

open Contribution (weight)

theorem contributions_congr {expression : Expression}
    (alike : ∀ spec ∈ expression.specs, values.get? spec.name = values'.get? spec.name) :
    expression.contributions values = expression.contributions values' := by
  apply List.flatMap_congr
  intro spec membership
  exact VarSpec.contributions_congr (alike spec membership)

theorem expand_congr {expression : Expression}
    (alike : ∀ spec ∈ expression.specs, values.get? spec.name = values'.get? spec.name) :
    expression.expand values = expression.expand values' := by
  rw [expand_eq_foldl, expand_eq_foldl, contributions_congr alike]

theorem length_joined (operator : Operator) {contributions : List Contribution}
    (nonempty : contributions ≠ []) :
    (joined operator contributions).length + 1 = weight operator contributions := by
  induction contributions with
  | nil => exact absurd rfl nonempty
  | cons first rest inductionHypothesis =>
      cases rest with
      | nil => simp [joined, weight]
      | cons second later =>
          have rejoined := inductionHypothesis (List.cons_ne_nil _ _)
          simp only [joined, weight, List.map_cons, String.intercalate_cons_cons,
            String.length_append, String.length_singleton] at rejoined ⊢
          omega

theorem length_expand_lt {expression : Expression}
    (heavier : weight expression.operator (expression.contributions values) + 2 ≤
      weight expression.operator (expression.contributions values')) :
    (expression.expand values).length < (expression.expand values').length := by
  have something : expression.contributions values' ≠ [] := by
    intro nothing
    simp [nothing] at heavier
  have after := length_joined expression.operator something
  rw [expand_of_contributions_ne_nil something, String.length_append]
  by_cases nothing : expression.contributions values = []
  · rw [expand_of_contributions_eq_nil nothing, String.length_empty]
    omega
  · have before := length_joined expression.operator nothing
    rw [expand_of_contributions_ne_nil nothing, String.length_append]
    omega

end Expression

namespace Element

theorem expand_congr {element : Element}
    (alike : ∀ spec ∈ element.specs, values.get? spec.name = values'.get? spec.name) :
    element.expand values = element.expand values' := by
  cases element with
  | literal => rfl
  | expression body => exact Expression.expand_congr alike

theorem length_expand_lt {element : Element} (nonempty : text ≠ "")
    (listed : name ∈ element.specs.map VarSpec.name) :
    (element.expand (values.erase name)).length <
      (element.expand (values.insert name (.text text))).length := by
  cases element with
  | literal => cases listed
  | expression body =>
      apply Expression.length_expand_lt
      have heavier :=
        VarSpec.weight_flatMap_contributions body.operator values name nonempty body.specs
      have counted : 0 < (body.specs.map VarSpec.name).count name := List.count_pos_iff.mpr listed
      unfold Expression.contributions
      omega

theorem length_expand_le (element : Element) (nonempty : text ≠ "") :
    (element.expand (values.erase name)).length ≤
      (element.expand (values.insert name (.text text))).length := by
  by_cases listed : name ∈ element.specs.map VarSpec.name
  · exact Nat.le_of_lt (length_expand_lt nonempty listed)
  · apply Nat.le_of_eq
    rw [expand_congr]
    intro spec membership
    have different : spec.name ≠ name := fun same =>
      listed (same ▸ List.mem_map_of_mem membership)
    simp [different]

end Element

namespace Template

variable {template : Template}

theorem mem_variableNames : name ∈ template.variableNames ↔
    ∃ element ∈ template.elements, name ∈ element.specs.map VarSpec.name := by
  simp [variableNames, specs, List.map_flatMap]

theorem expand_congr
    (alike : ∀ name ∈ template.variableNames, values.get? name = values'.get? name) :
    template.expand values = template.expand values' := by
  rw [expand_eq_join, expand_eq_join]
  apply congrArg String.join
  apply List.map_congr_left
  intro element membership
  apply Element.expand_congr
  intro spec inElement
  exact alike _ (mem_variableNames.mpr ⟨element, membership, List.mem_map_of_mem inElement⟩)

/-- A text for a listed name makes every expansion longer. -/
theorem length_expand_lt (listed : name ∈ template.variableNames) (values : Variables)
    (nonempty : text ≠ "") :
    (template.expand (values.erase name)).length <
      (template.expand (values.insert name (.text text))).length := by
  simp only [expand_eq_join, String.length_join, List.map_map]
  apply List.sum_lt_sum
  · intro element _
    exact element.length_expand_le nonempty
  · obtain ⟨element, membership, inElement⟩ := mem_variableNames.mp listed
    exact ⟨element, membership, Element.length_expand_lt nonempty inElement⟩

theorem exists_expand_ne (listed : name ∈ template.variableNames) (values : Variables) :
    ∃ values' : Variables, (∀ other, other ≠ name → values'.get? other = values.get? other) ∧
      template.expand values' ≠ template.expand values := by
  have longer := length_expand_lt listed values (show "x" ≠ "" by decide)
  by_cases same : template.expand (values.erase name) = template.expand values
  · refine ⟨values.insert name (.text "x"), fun other different => by simp [different], ?_⟩
    intro unchanged
    rw [same, unchanged] at longer
    exact Nat.lt_irrefl _ longer
  · exact ⟨values.erase name, fun other different => by simp [different], same⟩

/-- The names that a template lists are exactly those that its expansion depends on, and the
list of templates tells them as they are read from the text that it tells. -/
theorem variableNames_exact {written : String} {template : Template}
    (accepted : read written = .ok template) :
    (∀ values values' : Variables,
      (∀ name ∈ template.variableNames, values.get? name = values'.get? name) →
        template.expand values = template.expand values' ∧
          template.expandToUrl values = template.expandToUrl values') ∧
    (∀ name ∈ template.variableNames, ∀ values : Variables, ∃ values' : Variables,
      (∀ other, other ≠ name → values'.get? other = values.get? other) ∧
        template.expand values' ≠ template.expand values) ∧
    ∃ reread, read template.text = .ok reread ∧
      reread.variableNames = template.variableNames ∧
      ∀ entry : CatalogEntry, entry.template = template →
        entry.summary = Json.objectText
          [("alias", Json.stringText entry.name),
            ("description", Json.stringText entry.description),
            ("template", Json.stringText template.text),
            ("variables", Json.arrayText (reread.variableNames.map Json.stringText))] := by
  refine ⟨fun values values' alike => ?_, fun name listed => exists_expand_ne listed, ?_⟩
  · have expansions := expand_congr alike
    exact ⟨expansions, congrArg Url.ofExpansion expansions⟩
  · obtain ⟨spelling, -, rfl⟩ := TemplateSpelling.exists_of_read accepted
    refine ⟨spelling.meaning, spelling.read_text_meaning, rfl, ?_⟩
    rintro entry same
    rw [← same]
    rfl

/-- A name that stands twice, one that is exploded, and one that is not listed. -/
theorem variableNames_exact_repeated :
    ∃ template, read "\x7bx:3\x7d\x7b?x,y*\x7d" = .ok template ∧
      template.variableNames = ["x", "x", "y"] ∧
      (∀ (values : Variables) (value : Value),
        template.expand (values.insert "z" value) = template.expand values) ∧
      ∃ values' : Variables, (∀ other, other ≠ "x" → values'.get? other = none) ∧
        template.expand values' ≠ template.expand .empty := by
  have accepted : read "\x7bx:3\x7d\x7b?x,y*\x7d" =
      .ok ⟨[.expression ⟨.simple, [⟨"x", .upTo 3 (by decide) (by decide)⟩], List.cons_ne_nil _ _⟩,
        .expression ⟨.query, [⟨"x", .plain⟩, ⟨"y", .explode⟩], List.cons_ne_nil _ _⟩]⟩ := by
    decide +kernel
  obtain ⟨determines, matters, -⟩ := variableNames_exact accepted
  refine ⟨_, accepted, rfl, fun values value => ?_, matters "x" List.mem_cons_self .empty⟩
  refine (determines _ _ fun name listed => ?_).1
  have different : name ≠ "z" := by
    rintro rfl
    revert listed
    decide
  simp [different]

end Template

end UriExpansion
