import UriExpansion.Binding.Query
import UriExpansion.Proofs.Binding.Texts

/-!
Bindings from query parameters, name by name. Each parameter changes the value of one name
and leaves all others alone, so the value of a name is a fold over the parameters that
looks at no other name.
-/

namespace UriExpansion

/-- The value of a name after a further parameter. -/
def Value.afterParameter (name : String) (value? : Option Value)
    (parameter : String × String) : Option Value :=
  match Variables.memberOf? parameter.1 with
  | some (target, key) =>
      if name = target then some (insertMember value? key parameter.2) else value?
  | none => if name = parameter.1 then some (appendText value? parameter.2) else value?

namespace Variables

theorem get?_addParameter (values : Variables) (parameter : String × String) (name : String) :
    (values.addParameter parameter.1 parameter.2).get? name =
      Value.afterParameter name (values.get? name) parameter := by
  unfold addParameter Value.afterParameter
  cases memberOf? parameter.1 with
  | none =>
      by_cases same : name = parameter.1
      · simp [appendText, same]
      · simp [appendText, same]
  | some member =>
      by_cases same : name = member.1
      · simp [insertMember, same]
      · simp [insertMember, same]

theorem get?_ofQuery (parameters : List (String × String)) (name : String) :
    (ofQuery parameters).get? name = parameters.foldl (Value.afterParameter name) none := by
  suffices general : ∀ values : Variables,
      (parameters.foldl (fun values parameter =>
        values.addParameter parameter.1 parameter.2) values).get? name =
          parameters.foldl (Value.afterParameter name) (values.get? name) from general empty
  induction parameters with
  | nil => exact fun _ => rfl
  | cons parameter rest inductionHypothesis =>
      intro values
      rw [List.foldl_cons, List.foldl_cons, inductionHypothesis, get?_addParameter]

/-- A parameter is a text of its own name unless it ends in a bracket. -/
theorem memberOf?_eq_none {parameter : String} (noBracket : ']' ∉ parameter.toList) :
    memberOf? parameter = none := by
  have notLast : parameter.toList.getLast? ≠ some ']' :=
    fun last => noBracket (List.mem_of_getLast? last)
  simp [memberOf?, notLast]

end Variables

namespace Value

theorem foldl_afterParameter_of_ne {name : String} {parameters : List (String × String)}
    (others : ∀ parameter ∈ parameters,
      Variables.memberOf? parameter.1 = none ∧ name ≠ parameter.1) (value? : Option Value) :
    parameters.foldl (afterParameter name) value? = value? := by
  induction parameters with
  | nil => rfl
  | cons parameter rest inductionHypothesis =>
      obtain ⟨⟨isText, different⟩, restOthers⟩ := List.forall_mem_cons.mp others
      have unchanged : afterParameter name value? parameter = value? := by
        simp [afterParameter, isText, different]
      rw [List.foldl_cons, unchanged, inductionHypothesis restOthers]

theorem foldl_afterParameter_map {name : String} (isText : Variables.memberOf? name = none)
    (texts : List String) (value? : Option Value) :
    (texts.map (name, ·)).foldl (afterParameter name) value? =
      texts.foldl (fun value? text => some (appendText value? text)) value? := by
  rw [List.foldl_map]
  simp [afterParameter, isText]

end Value

end UriExpansion
