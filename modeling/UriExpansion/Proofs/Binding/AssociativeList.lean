import UriExpansion.Binding.AssociativeList
import UriExpansion.Proofs.Binding.Lookup
import Mathlib.Data.List.Induction

/-!
What building an associative list pair by pair comes to: every key stands where it occurs
first and has the value that it is given last.
-/

namespace UriExpansion.AssociativeList

theorem map_fst_insertPair (key value : String) (pairs : List (String × String)) :
    (insertPair key value pairs).map Prod.fst =
      if key ∈ pairs.map Prod.fst then pairs.map Prod.fst else pairs.map Prod.fst ++ [key] := by
  induction pairs with
  | nil => simp [insertPair]
  | cons pair rest inductionHypothesis =>
      by_cases same : pair.1 = key
      · simp [insertPair, same]
      · have different : key ≠ pair.1 := Ne.symm same
        rw [insertPair, if_neg same, List.map_cons, inductionHypothesis, List.map_cons]
        by_cases later : key ∈ rest.map Prod.fst
        · rw [if_pos later, if_pos (List.mem_cons_of_mem _ later)]
        · rw [if_neg later, if_neg (by simpa [different] using later), List.cons_append]

theorem lookup_insertPair (key value other : String) (pairs : List (String × String)) :
    (insertPair key value pairs).lookup other =
      if other = key then some value else pairs.lookup other := by
  induction pairs with
  | nil => exact lookup_cons_eq_ite other (key, value) []
  | cons pair rest inductionHypothesis =>
      by_cases same : pair.1 = key
      · rw [insertPair, if_pos same, lookup_cons_eq_ite, lookup_cons_eq_ite, same]
        by_cases here : other = key
        · rw [if_pos here, if_pos here]
        · rw [if_neg here, if_neg here, if_neg here]
      · rw [insertPair, if_neg same, lookup_cons_eq_ite, lookup_cons_eq_ite,
          inductionHypothesis]
        by_cases here : other = key
        · rw [here, if_neg (Ne.symm same), if_pos rfl, if_pos rfl]
        · rw [if_neg here, if_neg here]

@[simp]
theorem get?_empty (key : String) : empty.get? key = none := rfl

@[simp]
theorem get?_insert (list : AssociativeList) (key value other : String) :
    (list.insert key value).get? other = if other = key then some value else list.get? other :=
  lookup_insertPair key value other list.pairs

/-- A list is made up of its keys and what is found under them. -/
theorem pairs_eq_map (list : AssociativeList) :
    list.pairs = (list.pairs.map Prod.fst).map fun key => (key, (list.get? key).getD "") := by
  have found : ∀ pair ∈ list.pairs, pair = (pair.1, (list.get? pair.1).getD "") := by
    intro pair membership
    have value : list.get? pair.1 = some pair.2 :=
      (lookup_eq_some_iff_mem list.distinct).mpr membership
    rw [value, Option.getD_some]
  rw [List.map_map]
  exact (List.map_id list.pairs).symm.trans (List.map_congr_left found)

theorem ext_get? {left right : AssociativeList}
    (sameKeys : left.pairs.map Prod.fst = right.pairs.map Prod.fst)
    (sameValues : ∀ key, left.get? key = right.get? key) : left = right := by
  have equal : left.pairs = right.pairs := by
    rw [left.pairs_eq_map, right.pairs_eq_map, sameKeys, funext sameValues]
  cases left
  cases right
  cases equal
  rfl

theorem eraseDups_of_nodup {keys : List String} (distinct : keys.Nodup) : keys.eraseDups = keys := by
  induction keys with
  | nil => rfl
  | cons key rest inductionHypothesis =>
      obtain ⟨fresh, restDistinct⟩ := List.nodup_cons.mp distinct
      have others : rest.filter (fun other => !other == key) = rest := by
        rw [List.filter_eq_self]
        intro other membership
        simpa using fun same : other = key => fresh (same ▸ membership)
      rw [List.eraseDups_cons, others, inductionHypothesis restDistinct]

/-- The list that pairs build one after the other. -/
structure IsBuiltFrom (list : AssociativeList) (pairs : List (String × String)) : Prop where
  keys : list.pairs.map Prod.fst = (pairs.map Prod.fst).eraseDups
  values : ∀ key, list.get? key = pairs.reverse.lookup key

namespace IsBuiltFrom

theorem nil : empty.IsBuiltFrom [] := ⟨rfl, fun _ => rfl⟩

/-- Every list is built from its own pairs. -/
theorem self (list : AssociativeList) : list.IsBuiltFrom list.pairs := by
  constructor
  · exact (eraseDups_of_nodup list.distinct).symm
  · intro key
    have distinct : (list.pairs.reverse.map Prod.fst).Nodup := by
      rw [List.map_reverse]
      exact List.nodup_reverse.mpr list.distinct
    refine Option.ext fun value => ?_
    rw [get?, lookup_eq_some_iff_mem list.distinct, lookup_eq_some_iff_mem distinct,
      List.mem_reverse]

theorem unique {left right : AssociativeList} {pairs : List (String × String)}
    (leftBuilt : left.IsBuiltFrom pairs) (rightBuilt : right.IsBuiltFrom pairs) : left = right :=
  ext_get? (leftBuilt.keys.trans rightBuilt.keys.symm) fun key =>
    (leftBuilt.values key).trans (rightBuilt.values key).symm

theorem insert {list : AssociativeList} {pairs : List (String × String)}
    (built : list.IsBuiltFrom pairs) (key value : String) :
    (list.insert key value).IsBuiltFrom (pairs ++ [(key, value)]) := by
  constructor
  · have written : (list.insert key value).pairs = insertPair key value list.pairs := rfl
    rw [written, map_fst_insertPair, built.keys, List.map_append, List.eraseDups_append]
    by_cases known : key ∈ pairs.map Prod.fst
    · simp [List.removeAll, known]
    · simp [List.removeAll, known, List.eraseDups_cons]
  · intro other
    rw [get?_insert, built.values, List.reverse_append, List.reverse_singleton,
      List.singleton_append, lookup_cons_eq_ite]

theorem ofPairs (pairs : List (String × String)) : (ofPairs pairs).IsBuiltFrom pairs := by
  induction pairs using List.reverseRecOn with
  | nil => exact .nil
  | append_singleton earlier pair inductionHypothesis =>
      rw [AssociativeList.ofPairs, insertMany, List.foldl_concat]
      exact inductionHypothesis.insert pair.1 pair.2

end IsBuiltFrom

end UriExpansion.AssociativeList
