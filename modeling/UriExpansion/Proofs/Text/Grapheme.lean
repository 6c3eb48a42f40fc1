import UriExpansion.Text.Grapheme
import Mathlib.Data.List.Basic

/-!
What expansion relies on of grapheme clusters: none is empty, and a text that is not empty
has one. A prefix of at least one cluster is therefore as empty as the whole text.

Together the clusters are the text. Where they end is told by what stands in front, so the
first of them are the clusters of the text that they make up, and a prefix of a prefix is cut
as the shorter one of the two.
-/

namespace UriExpansion.Text.Grapheme

theorem clustersAfter_ne_nil (context : Context) (cluster rest : List Char) :
    clustersAfter context cluster rest ≠ [] := by
  fun_induction clustersAfter context cluster rest with
  | case1 => exact List.cons_ne_nil _ _
  | case2 => exact List.cons_ne_nil _ _
  | case3 _ _ _ _ _ _ inductionHypothesis => exact inductionHypothesis

theorem ne_nil_of_mem_clustersAfter {context : Context} {cluster rest : List Char}
    (nonempty : cluster ≠ []) : ∀ part ∈ clustersAfter context cluster rest, part ≠ [] := by
  fun_induction clustersAfter context cluster rest with
  | case1 => simpa using nonempty
  | case2 context cluster c rest next ends inductionHypothesis =>
      intro part membership
      rcases List.mem_cons.mp membership with rfl | later
      · simpa using nonempty
      · exact inductionHypothesis (List.cons_ne_nil _ _) part later
  | case3 _ _ _ _ _ _ inductionHypothesis => exact inductionHypothesis (List.cons_ne_nil _ _)

theorem clusters_ne_nil {text : List Char} (nonempty : text ≠ []) : clusters text ≠ [] := by
  obtain ⟨c, rest, rfl⟩ := List.exists_cons_of_ne_nil nonempty
  exact clustersAfter_ne_nil _ _ _

theorem ne_nil_of_mem_clusters {text cluster : List Char} (membership : cluster ∈ clusters text) :
    cluster ≠ [] := by
  cases text with
  | nil => cases membership
  | cons c rest => exact ne_nil_of_mem_clustersAfter (List.cons_ne_nil _ _) cluster membership

theorem takeClusters_eq_nil_iff {count : Nat} (positive : 1 ≤ count) {text : List Char} :
    takeClusters count text = [] ↔ text = [] := by
  constructor
  · intro empty
    by_contra nonempty
    obtain ⟨first, rest, split⟩ := List.exists_cons_of_ne_nil (clusters_ne_nil nonempty)
    have isFirst : first ∈ clusters text := split ▸ List.mem_cons_self
    have firstNonempty := ne_nil_of_mem_clusters isFirst
    obtain ⟨fewer, rfl⟩ := Nat.exists_eq_add_of_le' positive
    rw [takeClusters, split, List.take_succ_cons, List.flatten_cons] at empty
    exact firstNonempty (List.append_eq_nil_iff.mp empty).1
  · rintro rfl
    simp [takeClusters, clusters]

theorem flatten_clustersAfter (context : Context) (cluster rest : List Char) :
    (clustersAfter context cluster rest).flatten = cluster.reverse ++ rest := by
  fun_induction clustersAfter context cluster rest with
  | case1 => simp
  | case2 _ _ _ _ _ _ inductionHypothesis =>
      rw [List.flatten_cons, inductionHypothesis, List.reverse_singleton, List.singleton_append]
  | case3 _ _ _ _ _ _ inductionHypothesis =>
      rw [inductionHypothesis, List.reverse_cons, List.append_assoc, List.singleton_append]

theorem flatten_clusters (text : List Char) : (clusters text).flatten = text := by
  cases text with
  | nil => rfl
  | cons c rest => exact flatten_clustersAfter _ _ _

/-- The first clusters are those of a text that stops earlier. -/
theorem exists_clustersAfter_eq_take (context : Context) (cluster rest : List Char)
    (count : Nat) :
    ∃ kept, clustersAfter context cluster kept =
      (clustersAfter context cluster rest).take (count + 1) := by
  fun_induction clustersAfter context cluster rest generalizing count with
  | case1 context cluster => exact ⟨[], by simp [clustersAfter]⟩
  | case2 context cluster c rest next ends inductionHypothesis =>
      cases count with
      | zero => exact ⟨[], by simp [clustersAfter]⟩
      | succ count =>
          obtain ⟨kept, cut⟩ := inductionHypothesis count
          refine ⟨c :: kept, ?_⟩
          rw [clustersAfter, if_pos ends, List.take_succ_cons, ← cut]
  | case3 context cluster c rest next joins inductionHypothesis =>
      obtain ⟨kept, cut⟩ := inductionHypothesis count
      refine ⟨c :: kept, ?_⟩
      rw [clustersAfter, if_neg joins, ← cut]

/-- A text that is cut behind a cluster keeps its clusters up to there. -/
theorem clusters_takeClusters (count : Nat) (text : List Char) :
    clusters (takeClusters count text) = (clusters text).take count := by
  cases text with
  | nil => simp [takeClusters, clusters]
  | cons c rest =>
      cases count with
      | zero => rfl
      | succ count =>
          obtain ⟨kept, cut⟩ :=
            exists_clustersAfter_eq_take (.start (.ofChar c)) [c] rest count
          have joined : takeClusters (count + 1) (c :: rest) = c :: kept := by
            rw [takeClusters, clusters, ← cut, flatten_clustersAfter]
            rfl
          rw [joined]
          exact cut

theorem takeClusters_takeClusters (count further : Nat) (text : List Char) :
    takeClusters further (takeClusters count text) = takeClusters (min count further) text := by
  rw [takeClusters, clusters_takeClusters, List.take_take, Nat.min_comm, takeClusters]

theorem takeClusters_append_drop (count : Nat) (text : List Char) :
    takeClusters count text ++ ((clusters text).drop count).flatten = text := by
  rw [takeClusters, ← List.flatten_append, List.take_append_drop, flatten_clusters]

theorem takeClusters_of_length_le {count : Nat} {text : List Char}
    (few : (clusters text).length ≤ count) : takeClusters count text = text := by
  rw [takeClusters, List.take_of_length_le few, flatten_clusters]

end UriExpansion.Text.Grapheme
