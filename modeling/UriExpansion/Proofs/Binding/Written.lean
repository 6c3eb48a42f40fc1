import UriExpansion.Proofs.Binding.AssociativeList
import UriExpansion.Proofs.Binding.Members

/-!
Written values and variables. The text of a value is read as the value, and the text of
variables as the variables, in whatever order their bindings are written.
-/

namespace UriExpansion

open Json (Content)

theorem AssociativeList.ofPairs_pairs (list : AssociativeList) : ofPairs list.pairs = list :=
  (IsBuiltFrom.ofPairs list.pairs).unique (.self list)

namespace Value

theorem exists_holds_json (value : Value) :
    ∃ json, Json.Holds value.json json ∧ Denotes json (some value) := by
  cases value with
  | text content => exact ⟨_, Json.holds_stringText content, .text content⟩
  | list items =>
      exact ⟨_, Json.holds_arrayText_map fun item _ => Json.holds_stringText item, .list items⟩
  | associative pairs =>
      have denotes := Denotes.associative pairs.pairs
      rw [ofPairs, pairs.ofPairs_pairs] at denotes
      refine ⟨_, Json.holds_objectText_map fun pair _ => ?_, denotes⟩
      exact (Json.holds_stringText pair.2).member pair.1

theorem decode_json (value : Value) : Json.decode (ofJson 0) value.json = .ok value := by
  obtain ⟨json, holds, denotes⟩ := value.exists_holds_json
  exact Json.decode_eq_ok_iff.mpr ⟨json, holds, (ofJson_eq_ok_iff (by decide)).mpr denotes⟩

end Value

namespace Variables

/-- The JSON text of variables whose bindings are written in the given order. -/
def jsonInOrder (bindings : List (String × Value)) : String :=
  Json.objectText (bindings.map fun (name, value) => (name, value.json))

theorem json_eq_jsonInOrder (values : Variables) : values.json = jsonInOrder values.bindings := rfl

theorem exists_holds_jsonInOrder (bindings : List (String × Value)) :
    ∃ members, Json.Holds (jsonInOrder bindings) (.object members none) ∧
      List.Forall₂ Gives members (bindings.map fun binding => (binding.1, some binding.2)) := by
  suffices read : ∃ members,
      List.Forall₂ Json.HoldsMember (bindings.map fun (name, value) => (name, value.json)) members ∧
      List.Forall₂ Gives members (bindings.map fun binding => (binding.1, some binding.2)) by
    obtain ⟨members, hold, gives⟩ := read
    exact ⟨members, Json.holds_objectText hold, gives⟩
  induction bindings with
  | nil => exact ⟨[], .nil, .nil⟩
  | cons binding rest inductionHypothesis =>
      obtain ⟨name, value⟩ := binding
      obtain ⟨members, hold, gives⟩ := inductionHypothesis
      obtain ⟨json, holds, denotes⟩ := value.exists_holds_json
      exact ⟨(.ok name, json) :: members, .cons (holds.member name) hold,
        .cons (.of_denotes denotes name) gives⟩

/-- Bindings make the variables that they are of, in whatever order they are given. -/
theorem assignAll_of_perm {values : Variables} {bindings : List (String × Value)}
    (permuted : bindings.Perm values.bindings) :
    empty.assignAll (bindings.map fun binding => (binding.1, some binding.2)) = values := by
  have distinct : ((bindings.map fun binding => (binding.1, some binding.2)).reverse.map
      Prod.fst).Nodup := by
    rw [List.map_reverse, List.nodup_reverse, List.map_map]
    exact (permuted.map Prod.fst).nodup_iff.mpr values.distinct_names
  refine ext_get? fun name => Option.ext fun value => ?_
  rw [get?_assignAll_empty, Option.join_eq_some_iff, lookup_eq_some_iff_mem distinct,
    get?_eq_some_iff, ← permuted.mem_iff]
  simp

theorem exists_holds_of_perm {values : Variables} {bindings : List (String × Value)}
    (permuted : bindings.Perm values.bindings) {depth : Nat}
    (shallow : depth + 1 < Json.depthLimit) :
    ∃ json, Json.Holds (jsonInOrder bindings) json ∧ ofJson depth json = .ok values := by
  obtain ⟨members, holds, gives⟩ := exists_holds_jsonInOrder bindings
  exact ⟨_, holds,
    (ofJson_eq_ok_iff shallow).mpr ⟨members, _, rfl, gives, assignAll_of_perm permuted⟩⟩

end Variables

end UriExpansion
