import UriExpansion.Proofs.Template.Expansion
import UriExpansion.Proofs.Template.Name

/-!
What variables give to an expression before anything is encoded: texts and items under the
name of the variable, items that are written together, and members under their own keys.
What an expression writes is the encoding of these data, one by one.
-/

namespace UriExpansion

/-- A value as a variable gives it to an expression. -/
inductive Datum where
  /-- A text or an item under the name of the variable. -/
  | single (name text : String)
  /-- Items that are written together, with commas in between. -/
  | joined (name : String) (items : List String)
  /-- A member under its own key. -/
  | member (key value : String)

theorem Operator.forall_mem_named {motive : String → Prop} (operator : Operator) {name : String}
    (ofName : motive name) :
    ∀ given ∈ (if operator.named then some name else none), motive given := by
  intro given membership
  split at membership
  · cases membership
    exact ofName
  · cases membership

namespace Datum

/-- The datum as an operator encodes it. -/
def contribution (operator : Operator) : Datum → Contribution
  | single name text =>
      ⟨if operator.named then some name else none, operator.allowed.encode text⟩
  | joined name items =>
      ⟨if operator.named then some name else none, operator.allowed.encodeJoined items⟩
  | member key value => ⟨some (operator.allowed.encode key), operator.allowed.encode value⟩

/-- A datum under a name that the grammar allows, or under a key. -/
def IsNamed : Datum → Prop
  | single name _ | joined name _ => VariableName.IsName name.toList
  | member _ _ => True

end Datum

namespace VarSpec

/-- A variable with a name that the grammar allows. -/
def IsNamed (spec : VarSpec) : Prop :=
  VariableName.IsName spec.name.toList

/-- The data of a variable that is bound to a value. -/
def dataOf (spec : VarSpec) : Value → List Datum
  | .text text => [.single spec.name (spec.modifier.apply text)]
  | .list items =>
      if spec.isExploded then items.map (.single spec.name) else [.joined spec.name items]
  | .associative list =>
      if list.pairs = [] then []
      else if spec.isExploded then list.pairs.map fun (key, value) => .member key value
      else [.joined spec.name (list.pairs.flatMap fun (key, value) => [key, value])]

/-- The data of a variable; none if it is not bound. -/
def data (spec : VarSpec) (values : Variables) : List Datum :=
  ((values.get? spec.name).map spec.dataOf).getD []

theorem contributionsOf_eq_map (spec : VarSpec) (operator : Operator) (value : Value) :
    spec.contributionsOf operator value =
      (spec.dataOf value).map (Datum.contribution operator) := by
  cases value with
  | text text => rfl
  | list items =>
      by_cases exploded : spec.isExploded = true
      · simp [contributionsOf, dataOf, exploded, Datum.contribution, Function.comp_def]
      · simp [contributionsOf, dataOf, exploded, Datum.contribution]
  | associative list =>
      by_cases empty : list.pairs = []
      · simp [contributionsOf, dataOf, AssociativeList.isEmpty, empty]
      · by_cases exploded : spec.isExploded = true
        · simp [contributionsOf, dataOf, AssociativeList.isEmpty, empty, exploded,
            Datum.contribution, Function.comp_def]
        · simp [contributionsOf, dataOf, AssociativeList.isEmpty, empty, exploded,
            Datum.contribution]

theorem contributions_eq_map (spec : VarSpec) (operator : Operator) (values : Variables) :
    spec.contributions operator values =
      (spec.data values).map (Datum.contribution operator) := by
  unfold contributions data
  cases values.get? spec.name with
  | none => rfl
  | some value => exact spec.contributionsOf_eq_map operator value

theorem IsNamed.data {spec : VarSpec} (named : spec.IsNamed) (values : Variables) :
    ∀ datum ∈ spec.data values, datum.IsNamed := by
  unfold VarSpec.data
  cases values.get? spec.name with
  | none => exact fun _ impossible => nomatch impossible
  | some value =>
      intro datum membership
      rw [Option.map_some, Option.getD_some] at membership
      cases value with
      | text text =>
          rw [List.mem_singleton.mp membership]
          exact named
      | list items =>
          simp only [dataOf] at membership
          split at membership
          · obtain ⟨item, -, rfl⟩ := List.mem_map.mp membership
            exact named
          · rw [List.mem_singleton.mp membership]
            exact named
      | associative list =>
          simp only [dataOf] at membership
          split at membership
          · cases membership
          split at membership
          · obtain ⟨pair, -, rfl⟩ := List.mem_map.mp membership
            trivial
          · rw [List.mem_singleton.mp membership]
            exact named

end VarSpec

namespace Expression

/-- The data of all variables, in the order in which they stand. -/
def data (expression : Expression) (values : Variables) : List Datum :=
  expression.specs.flatMap fun spec => spec.data values

theorem contributions_eq_map (expression : Expression) (values : Variables) :
    expression.contributions values =
      (expression.data values).map (Datum.contribution expression.operator) := by
  simp only [contributions, data, List.map_flatMap, VarSpec.contributions_eq_map]

theorem isNamed_of_mem_data {expression : Expression}
    (named : ∀ spec ∈ expression.specs, spec.IsNamed)
    (values : Variables) : ∀ datum ∈ expression.data values, datum.IsNamed := by
  intro datum membership
  obtain ⟨spec, inSpecs, inData⟩ := List.mem_flatMap.mp membership
  exact (named spec inSpecs).data values datum inData

end Expression

end UriExpansion
