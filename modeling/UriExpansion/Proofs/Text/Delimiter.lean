import Mathlib.Data.List.Basic

/-!
Texts that are put together with delimiters between them, and how the parts are told
from the whole.
-/

namespace UriExpansion.Text

variable {α : Type}

/-- What holds of the delimiter and the parts, and of two texts put together if of both,
holds of the whole. -/
theorem intercalate_induction {motive : List α → Prop} (nil : motive [])
    (append : ∀ {left right}, motive left → motive right → motive (left ++ right))
    {delimiter : List α} (ofDelimiter : motive delimiter) {parts : List (List α)}
    (ofParts : ∀ part ∈ parts, motive part) : motive (delimiter.intercalate parts) := by
  induction parts with
  | nil => exact nil
  | cons first rest inductionHypothesis =>
      have ofFirst := ofParts first List.mem_cons_self
      have ofRest := inductionHypothesis fun part membership =>
        ofParts part (List.mem_cons_of_mem _ membership)
      by_cases empty : rest = []
      · rw [empty, List.intercalate_singleton]
        exact ofFirst
      · rw [List.intercalate_cons_of_ne_nil empty]
        exact append (append ofFirst ofDelimiter) ofRest

theorem not_mem_intercalate {c : α} {delimiter : List α} (notDelimiter : c ∉ delimiter)
    {parts : List (List α)} (notParts : ∀ part ∈ parts, c ∉ part) :
    c ∉ delimiter.intercalate parts := by
  refine intercalate_induction (motive := (c ∉ ·)) List.not_mem_nil ?_ notDelimiter notParts
  intro left right notLeft notRight inEither
  exact (List.mem_append.mp inEither).elim notLeft notRight

/-- The parts between delimiters hold no delimiter. -/
theorem not_mem_of_mem_splitOn [BEq α] [LawfulBEq α] {delimiter : α} {text part : List α}
    (membership : part ∈ text.splitOn delimiter) : delimiter ∉ part := by
  induction text generalizing part with
  | nil =>
      rw [List.splitOn_nil, List.mem_singleton] at membership
      exact membership ▸ List.not_mem_nil
  | cons c rest inductionHypothesis =>
      rw [List.splitOn_cons_eq_if_modifyHead] at membership
      split at membership
      · rcases List.mem_cons.mp membership with rfl | inRest
        · exact List.not_mem_nil
        · exact inductionHypothesis inRest
      next different =>
        obtain ⟨first, others, equality⟩ :=
          List.exists_cons_of_ne_nil (List.splitOn_ne_nil delimiter rest)
        rw [equality] at inductionHypothesis membership
        rcases List.mem_cons.mp membership with rfl | inOthers
        · intro inFirst
          rcases List.mem_cons.mp inFirst with rfl | inRest
          · exact different (beq_self_eq_true _)
          · exact inductionHypothesis List.mem_cons_self inRest
        · exact inductionHypothesis (List.mem_cons_of_mem _ inOthers)

/-- A search for a delimiter passes over what holds none. -/
theorem span_append [DecidableEq α] {delimiter : α} {left : List α} (absent : delimiter ∉ left)
    (rest : List α) :
    (left ++ rest).takeWhile (· ≠ delimiter) = left ++ rest.takeWhile (· ≠ delimiter) ∧
      (left ++ rest).dropWhile (· ≠ delimiter) = rest.dropWhile (· ≠ delimiter) := by
  have different : ∀ c ∈ left, decide (c ≠ delimiter) = true := by
    intro c membership
    exact decide_eq_true fun equality => absent (equality ▸ membership)
  exact ⟨List.takeWhile_append_of_pos different, List.dropWhile_append_of_pos different⟩

theorem span_append_cons [DecidableEq α] {delimiter : α} {left : List α}
    (absent : delimiter ∉ left) (right : List α) :
    (left ++ delimiter :: right).takeWhile (· ≠ delimiter) = left ∧
      (left ++ delimiter :: right).dropWhile (· ≠ delimiter) = delimiter :: right := by
  obtain ⟨before, after⟩ := span_append absent (delimiter :: right)
  rw [before, after]
  simp

/-- A text is cut in one way at the first occurrence of a delimiter. -/
theorem append_cons_injective {delimiter : α} {left right left' right' : List α}
    (absent : delimiter ∉ left) (absent' : delimiter ∉ left')
    (same : left ++ delimiter :: right = left' ++ delimiter :: right') :
    left = left' ∧ right = right' := by
  induction left generalizing left' with
  | nil =>
      cases left' with
      | nil => exact ⟨rfl, (List.cons.inj same).2⟩
      | cons first rest => exact absurd ((List.cons.inj same).1 ▸ List.mem_cons_self) absent'
  | cons first rest inductionHypothesis =>
      cases left' with
      | nil => exact absurd ((List.cons.inj same).1 ▸ List.mem_cons_self) absent
      | cons first' rest' =>
          obtain ⟨rfl, restSame⟩ := List.cons.inj same
          obtain ⟨rfl, rfl⟩ := inductionHypothesis
            (fun membership => absent (List.mem_cons_of_mem _ membership))
            (fun membership => absent' (List.mem_cons_of_mem _ membership)) restSame
          exact ⟨rfl, rfl⟩

end UriExpansion.Text
