import UriExpansion.Text.Truncation
import UriExpansion.Proofs.Text.Checked
import UriExpansion.Proofs.Text.Grapheme

/-!
The place of a cut. The bytes in front of a cluster are those of the clusters in front of it,
so the cut with a cursor is made between two characters and keeps these clusters.
-/

namespace UriExpansion.Text.Grapheme

open Checked
open Utf8 (size size_append)

variable {ε : Type}

theorem getElem?_placed (position count : Nat) (parts : List (List Char)) :
    (placed position parts)[count]? =
      parts[count]?.map fun part => (position + size (parts.take count).flatten, part) := by
  induction parts generalizing position count with
  | nil => rfl
  | cons first rest inductionHypothesis =>
      cases count with
      | zero => rfl
      | succ count =>
          rw [placed, List.getElem?_cons_succ, List.getElem?_cons_succ, inductionHypothesis,
            List.take_succ_cons, List.flatten_cons, size_append, Nat.add_assoc]

/-- The cut with a cursor meets no fault. -/
theorem checkedTakeClusters_eq (count : Nat) (text : List Char) :
    (checkedTakeClusters count text : Checked ε (List Char)) = .ok (takeClusters count text) := by
  rw [checkedTakeClusters, getElem?_placed]
  cases next : (clusters text)[count]? with
  | none =>
      have few : (clusters text).length ≤ count := List.getElem?_eq_none_iff.mp next
      rw [takeClusters_of_length_le few]
      rfl
  | some cluster =>
      have cut := slice_append (ε := ε) [] (takeClusters count text)
        ((clusters text).drop count).flatten
      rwa [takeClusters_append_drop] at cut

end UriExpansion.Text.Grapheme
