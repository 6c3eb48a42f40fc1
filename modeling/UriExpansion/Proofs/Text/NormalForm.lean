import UriExpansion.Text.NormalForm

/-!
What encoding relies on of normal form C: it leaves text alone that is in normal form by
the look of its characters, ASCII above all, and it never loses a whole text.
-/

namespace UriExpansion.Text.NormalForm

theorem nfc_of_inert {text : List Char} (inert : ∀ c ∈ text, isInert c = true) :
    nfc text = text := by
  unfold nfc
  rw [if_pos (List.all_eq_true.mpr inert)]

theorem nfc_of_ascii {text : List Char} (ascii : ∀ c ∈ text, c.toNat < 0x80) :
    nfc text = text := by
  apply nfc_of_inert
  intro c membership
  have below := ascii c membership
  simp only [isInert, decide_eq_true_eq]
  omega

theorem decomposeOnto_ne_nil (pair? : Char → Option (Char × Char))
    (replacement? : Char → Option (List Char)) (c : Char) (later : List Char) (depth : Nat) :
    decomposeOnto pair? replacement? c later depth ≠ [] := by
  fun_induction decomposeOnto pair? replacement? c later depth <;> simp_all

theorem decompose_ne_nil (c : Char) : decompose c ≠ [] := by
  unfold decompose
  cases syllable : hangulLetters? c with
  | none =>
      rw [Option.getD_none]
      exact decomposeOnto_ne_nil _ _ c [] 4
  | some letters =>
      unfold hangulLetters? at syllable
      dsimp only at syllable
      split at syllable
      · split at syllable <;> cases syllable <;> simp
      · cases syllable

theorem length_insertMark (mark : Classified) (reversed : List Classified) :
    (insertMark mark reversed).length = reversed.length + 1 := by
  fun_induction insertMark mark reversed <;> simp_all

theorem length_canonicalOrder (text : List Char) :
    (canonicalOrder text).length = text.length := by
  suffices general : ∀ reversed : List Classified,
      (text.foldl (fun reversed c =>
        let entry := (combiningClass c, c)
        if entry.1 = 0 then entry :: reversed else insertMark entry reversed) reversed).length =
          text.length + reversed.length by
    simpa [canonicalOrder] using general []
  induction text with
  | nil => simp
  | cons c rest inductionHypothesis =>
      intro reversed
      rw [List.foldl_cons, inductionHypothesis]
      dsimp only
      split
      · simp only [List.length_cons]
        omega
      · rw [length_insertMark, List.length_cons]
        omega

namespace Composition

theorem settled_append_ne_nil (state : Composition) (entry : Classified) :
    (state.append entry).settled ≠ [] := by
  unfold append settled
  split <;> simp

theorem settled_step_ne_nil (state : Composition) (entry : Classified) :
    (state.step entry).settled ≠ [] := by
  fun_cases step state entry with
  | case1 => exact settled_append_ne_nil state entry
  | case2 => simp [settled]
  | case3 => exact settled_append_ne_nil state entry

end Composition

theorem compose_ne_nil {text : List Classified} (nonempty : text ≠ []) :
    compose text ≠ [] := by
  rcases List.eq_nil_or_concat text with empty | ⟨earlier, last, equality⟩
  · exact absurd empty nonempty
  · subst equality
    unfold compose
    rw [List.concat_eq_append, List.foldl_append]
    simpa using Composition.settled_step_ne_nil _ last

theorem nfc_ne_nil {text : List Char} (nonempty : text ≠ []) : nfc text ≠ [] := by
  unfold nfc
  split
  · exact nonempty
  · apply compose_ne_nil
    intro ordered
    have decomposed := length_canonicalOrder (text.flatMap decompose)
    rw [ordered, List.length_nil, eq_comm, List.length_eq_zero_iff] at decomposed
    obtain ⟨c, rest, equality⟩ := List.exists_cons_of_ne_nil nonempty
    rw [equality, List.flatMap_cons, List.append_eq_nil_iff] at decomposed
    exact decompose_ne_nil c decomposed.1

end UriExpansion.Text.NormalForm
