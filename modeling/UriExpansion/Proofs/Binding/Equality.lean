import UriExpansion.Proofs.Binding.AssociativeList
import Mathlib.Data.List.Perm.Subperm

/-!
What it means that two bindings are the same. Associative lists are the same if the pairs of
one are those of the other in some order; texts and lists are the same only if they are equal.
Variables are the same if they bind the same names to the same values.
-/

namespace UriExpansion

namespace AssociativeList

theorem perm_of_samePairs {left right : AssociativeList} (same : samePairs left right = true) :
    left.pairs.Perm right.pairs := by
  obtain ⟨sizes, held⟩ := Bool.and_eq_true_iff.mp same
  have distinct : left.pairs.Nodup := List.Nodup.of_map _ left.distinct
  have subset : left.pairs ⊆ right.pairs := by
    intro pair membership
    have found : right.get? pair.1 = some pair.2 :=
      of_decide_eq_true (List.all_eq_true.mp held pair membership)
    exact (lookup_eq_some_iff_mem right.distinct).mp found
  have noMore : right.pairs.length ≤ left.pairs.length :=
    Nat.le_of_eq (of_decide_eq_true sizes).symm
  exact (distinct.subperm subset).perm_of_length_le noMore

/-- The order of the keys is the order of the pairs. -/
theorem eq_of_perm {left right : AssociativeList} (rearranged : left.pairs.Perm right.pairs)
    (keys : left.pairs.map Prod.fst = right.pairs.map Prod.fst) : left = right := by
  refine ext_get? keys fun key => Option.ext fun value => ?_
  rw [get?, get?, lookup_eq_some_iff_mem left.distinct, lookup_eq_some_iff_mem right.distinct,
    rearranged.mem_iff]

end AssociativeList

namespace Value

/-- The same value, but for the order in which an associative list holds its pairs. -/
inductive Rearranged : Value → Value → Prop
  | refl (value : Value) : Rearranged value value
  | associative {left right : AssociativeList} :
      left.pairs.Perm right.pairs → Rearranged (.associative left) (.associative right)

theorem rearranged_of_same {left right : Value} (same : Value.same left right = true) :
    Rearranged left right := by
  cases left <;> cases right <;> try cases same
  case text.text => exact of_decide_eq_true same ▸ .refl _
  case list.list => exact of_decide_eq_true same ▸ .refl _
  case associative.associative => exact .associative (AssociativeList.perm_of_samePairs same)

end Value

namespace Variables

theorem exists_rearranged_of_same {left right : Variables}
    (same : Variables.same left right = true) {name : String} {value : Value}
    (bound : left.get? name = some value) :
    ∃ other, right.get? name = some other ∧ value.Rearranged other := by
  have held := (Bool.and_eq_true_iff.mp same).2
  have alike := List.all_eq_true.mp held (name, value) (get?_eq_some_iff.mp bound)
  simp only at alike
  cases found : right.get? name with
  | none =>
      rw [found] at alike
      cases alike
  | some other =>
      rw [found] at alike
      exact ⟨other, rfl, Value.rearranged_of_same alike⟩

theorem get?_eq_none_of_same {left right : Variables} (same : Variables.same left right = true)
    {name : String} (unbound : left.get? name = none) : right.get? name = none := by
  have sizes : right.bindings.length = left.bindings.length :=
    (of_decide_eq_true (Bool.and_eq_true_iff.mp same).1).symm
  have subset : left.bindings.map Prod.fst ⊆ right.bindings.map Prod.fst := by
    intro other membership
    obtain ⟨binding, inLeft, rfl⟩ := List.mem_map.mp membership
    obtain ⟨value, found, -⟩ := exists_rearranged_of_same same (get?_eq_some_iff.mpr inLeft)
    exact List.mem_map.mpr ⟨_, get?_eq_some_iff.mp found, rfl⟩
  have names : (left.bindings.map Prod.fst).Perm (right.bindings.map Prod.fst) := by
    refine (left.distinct_names.subperm subset).perm_of_length_le ?_
    rw [List.length_map, List.length_map]
    exact Nat.le_of_eq sizes
  apply lookup_eq_none_of_not_mem
  intro membership
  obtain ⟨binding, inLeft, rfl⟩ := List.mem_map.mp (names.mem_iff.mpr membership)
  rw [get?_eq_some_iff.mpr inLeft] at unbound
  cases unbound

/-- Variables that are the same bind every name to the same value, or none of them does. -/
theorem rearranged_of_same {left right : Variables} (same : Variables.same left right = true)
    (name : String) : Option.Rel Value.Rearranged (left.get? name) (right.get? name) := by
  cases bound : left.get? name with
  | none =>
      rw [get?_eq_none_of_same same bound]
      exact .none
  | some value =>
      obtain ⟨other, found, rearranged⟩ := exists_rearranged_of_same same bound
      rw [found]
      exact .some rearranged

end Variables

end UriExpansion
