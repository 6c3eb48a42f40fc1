import UriExpansion.Template.Expansion

/-!
Expansion as joining. Expressions are expanded value by value; what they write is the
list of all contributions, written at once with the separator in between and the first
character of the operator in front.
-/

namespace UriExpansion

namespace Expression

/-- What all variables contribute, in the order in which they stand. -/
def contributions (expression : Expression) (values : Variables) : List Contribution :=
  expression.specs.flatMap fun spec => spec.contributions expression.operator values

/-- Contributions with the separator of an operator in between. -/
def joined (operator : Operator) (contributions : List Contribution) : String :=
  String.intercalate (String.singleton operator.separator)
    (contributions.map (Contribution.text operator))

theorem joined_singleton (operator : Operator) (contribution : Contribution) :
    joined operator [contribution] = contribution.text operator := by
  rw [joined, List.map_singleton, String.intercalate_singleton]

theorem joined_append (operator : Operator) {left right : List Contribution}
    (leftNonempty : left ≠ []) (rightNonempty : right ≠ []) :
    joined operator (left ++ right) =
      joined operator left ++ String.singleton operator.separator ++ joined operator right := by
  unfold joined
  rw [List.map_append, String.intercalate_append_of_ne_nil (by simpa using leftNonempty)
    (by simpa using rightNonempty)]

/-- Once something is written, every contribution goes behind a separator. -/
theorem foldl_write_some (operator : Operator) (front : String)
    {passed : List Contribution} (nonempty : passed ≠ []) (rest : List Contribution) :
    rest.foldl (write operator) (some (front ++ joined operator passed)) =
      some (front ++ joined operator (passed ++ rest)) := by
  induction rest generalizing passed with
  | nil => rw [List.append_nil, List.foldl_nil]
  | cons next later inductionHypothesis =>
      have step : write operator (some (front ++ joined operator passed)) next =
          some (front ++ joined operator (passed ++ [next])) := by
        rw [joined_append operator nonempty (List.cons_ne_nil _ _), joined_singleton]
        simp only [write, String.append_assoc]
      rw [List.foldl_cons, step, inductionHypothesis (List.append_ne_nil_of_left_ne_nil nonempty _),
        List.append_assoc, List.singleton_append]

theorem foldl_write_none (operator : Operator) {contributions : List Contribution}
    (nonempty : contributions ≠ []) :
    contributions.foldl (write operator) none =
      some (String.ofList operator.first?.toList ++ joined operator contributions) := by
  obtain ⟨first, rest, rfl⟩ := List.exists_cons_of_ne_nil nonempty
  have start : write operator none first =
      some (String.ofList operator.first?.toList ++ joined operator [first]) := by
    rw [joined_singleton]
    rfl
  rw [List.foldl_cons, start, foldl_write_some operator _ (List.cons_ne_nil _ _),
    List.singleton_append]

theorem expand_eq_foldl (expression : Expression) (values : Variables) :
    expression.expand values =
      ((expression.contributions values).foldl (write expression.operator) none).getD "" := by
  rw [contributions, List.foldl_flatMap]
  rfl

theorem expand_of_contributions_eq_nil {expression : Expression} {values : Variables}
    (nothing : expression.contributions values = []) : expression.expand values = "" := by
  rw [expand_eq_foldl, nothing]
  rfl

theorem expand_of_contributions_ne_nil {expression : Expression} {values : Variables}
    (something : expression.contributions values ≠ []) :
    expression.expand values =
      String.ofList expression.operator.first?.toList ++
        joined expression.operator (expression.contributions values) := by
  rw [expand_eq_foldl, foldl_write_none _ something]
  rfl

end Expression

theorem Template.expand_eq_join (template : Template) (values : Variables) :
    template.expand values = String.join (template.elements.map (Element.expand values)) := by
  rw [String.join_eq_foldl, List.foldl_map]
  rfl

end UriExpansion
