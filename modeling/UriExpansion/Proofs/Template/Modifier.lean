import UriExpansion.Proofs.Binding.Lookup
import UriExpansion.Proofs.Template.Splitting
import UriExpansion.Proofs.Text.Truncation

/-!
What modifiers do to the values they are written for. A prefix length cuts texts behind a
cluster and says nothing about lists; a star takes lists item by item and says nothing about
texts. So an expression may be written without a modifier wherever it says nothing, whatever
other variables stand beside it.
-/

namespace UriExpansion

open Text.Grapheme

namespace Text.Grapheme

/-- The text of the first clusters, as many as are asked for or as there are. -/
structure IsCut (count : Nat) (text cut : List Char) : Prop where
  joined : cut = ((clusters text).take (min count (clusters text).length)).flatten
  whole : (clusters text).length ≤ count → cut = text
  onBoundary : ∃ behind, clusters text = clusters cut ++ behind ∧ text = cut ++ behind.flatten
  meetsNoFault : (checkedTakeClusters count text : Checked Empty (List Char)) = .ok cut
  further : ∀ count', takeClusters count' cut = takeClusters (min count count') text

theorem isCut_takeClusters (count : Nat) (text : List Char) :
    IsCut count text (takeClusters count text) where
  joined := by rw [← List.take_eq_take_min, takeClusters]
  whole := takeClusters_of_length_le
  onBoundary := by
    refine ⟨(clusters text).drop count, ?_, (takeClusters_append_drop count text).symm⟩
    rw [clusters_takeClusters, List.take_append_drop]
  meetsNoFault := checkedTakeClusters_eq count text
  further := fun _ => takeClusters_takeClusters _ _ _

end Text.Grapheme

namespace VarSpec

variable {spec spec' : VarSpec} {operator : Operator}

/-- Of a modifier only the star shows in lists. -/
theorem contributionsOf_list_congr (names : spec.name = spec'.name)
    (stars : spec.isExploded = spec'.isExploded) (items : List String) :
    spec.contributionsOf operator (.list items) = spec'.contributionsOf operator (.list items) := by
  simp only [contributionsOf, names, stars]

theorem contributionsOf_associative_congr (names : spec.name = spec'.name)
    (stars : spec.isExploded = spec'.isExploded) (list : AssociativeList) :
    spec.contributionsOf operator (.associative list) =
      spec'.contributionsOf operator (.associative list) := by
  simp only [contributionsOf, names, stars]

/-- Of a modifier only what it leaves of a text shows in texts. -/
theorem contributionsOf_text_congr (names : spec.name = spec'.name) {text text' : String}
    (cuts : spec.modifier.apply text = spec'.modifier.apply text') :
    spec.contributionsOf operator (.text text) = spec'.contributionsOf operator (.text text') := by
  simp only [contributionsOf, names, cuts]

theorem contributions_of_bound {values : Variables} {value : Value}
    (bound : values.get? spec.name = some value) :
    spec.contributions operator values = spec.contributionsOf operator value := by
  rw [contributions, bound]

end VarSpec

namespace ExpressionSpelling

/-- An expression of a variable and the ones that stand before and after it. -/
def among (operator : Operator) (before : List VarSpelling) (var : VarSpelling)
    (after : List VarSpelling) : ExpressionSpelling :=
  ⟨operator, before ++ var :: after, List.append_ne_nil_of_right_ne_nil _ (List.cons_ne_nil _ _)⟩

/-- Two expressions are read, and written in the same way. -/
def ExpandAlike (left right : ExpressionSpelling) (values values' : Variables) : Prop :=
  ∃ expanded, left.expansion values = .ok expanded ∧ right.expansion values' = .ok expanded

theorem expandAlike_of_contributions {left right : ExpressionSpelling}
    {values values' : Variables} (operators : left.operator = right.operator)
    (same : left.meaning.contributions values = right.meaning.contributions values') :
    ExpandAlike left right values values' := by
  refine ⟨left.meaning.expand values, left.expansion_eq values, ?_⟩
  have operators' : left.meaning.operator = right.meaning.operator := operators
  rw [right.expansion_eq, Expression.expand_eq_foldl, Expression.expand_eq_foldl, same, operators']

theorem contributions_among (operator : Operator) (before after : List VarSpelling)
    (var : VarSpelling) (values : Variables) :
    (among operator before var after).meaning.contributions values =
      (before.flatMap fun other => other.meaning.contributions operator values) ++
        (var.meaning.contributions operator values ++
          after.flatMap fun other => other.meaning.contributions operator values) := by
  simp only [among, meaning, Expression.contributions, List.map_append, List.map_cons,
    List.flatMap_append, List.flatMap_cons, List.flatMap_map]

variable {name : List Char}

/-- A variable may be exchanged for one that contributes the same, also from other values, as
long as the variables beside it contribute the same from these. -/
theorem expandAlike_among {operator : Operator} {before after : List VarSpelling}
    {var var' : VarSpelling} {values values' : Variables}
    (same : var.meaning.contributions operator values =
      var'.meaning.contributions operator values')
    (others : ∀ other ∈ before ++ after, other.meaning.contributions operator values =
      other.meaning.contributions operator values') :
    ExpandAlike (among operator before var after) (among operator before var' after)
      values values' := by
  refine expandAlike_of_contributions (by rfl) ?_
  have alikeBefore := List.flatMap_congr fun other membership =>
    others other (List.mem_append_left after membership)
  have alikeAfter := List.flatMap_congr fun other membership =>
    others other (List.mem_append_right before membership)
  rw [contributions_among, contributions_among, same, alikeBefore, alikeAfter]

/-- A name that has been bound contributes what its value does. -/
theorem contributions_of_insert (operator : Operator) (isName : VariableName.IsName name)
    (modifier : ModifierSpelling) (values : Variables) (value : Value) :
    (VarSpelling.meaning ⟨name, isName, modifier⟩).contributions operator
        (values.insert (String.ofList name) value) =
      (VarSpelling.meaning ⟨name, isName, modifier⟩).contributionsOf operator value :=
  VarSpec.contributions_of_bound ((Variables.get?_insert _ _ _ _).trans (if_pos rfl))

/-- With a prefix length a text is written like the text of its first clusters without one.
The length does not show in lists, nor a star in texts. -/
theorem expansion_of_modifier (operator : Operator) (isName : VariableName.IsName name)
    (length : LengthSpelling) (values : Variables) :
    (∀ (text : String) (values' : Variables),
      IsCut (decimalNumber length.digits) text.toList
          (takeClusters (decimalNumber length.digits) text.toList) ∧
        ExpandAlike (among operator [] ⟨name, isName, .upTo length⟩ [])
          (among operator [] ⟨name, isName, .plain⟩ [])
          (values.insert (String.ofList name) (.text text))
          (values'.insert (String.ofList name) (.text (String.ofList
            (takeClusters (decimalNumber length.digits) text.toList))))) ∧
    ∀ before after : List VarSpelling,
      (∀ items : List String,
        let bound := values.insert (String.ofList name) (.list items)
        ExpandAlike (among operator before ⟨name, isName, .upTo length⟩ after)
          (among operator before ⟨name, isName, .plain⟩ after) bound bound) ∧
      (∀ list : AssociativeList,
        let bound := values.insert (String.ofList name) (.associative list)
        ExpandAlike (among operator before ⟨name, isName, .upTo length⟩ after)
          (among operator before ⟨name, isName, .plain⟩ after) bound bound) ∧
      (∀ text : String,
        let bound := values.insert (String.ofList name) (.text text)
        ExpandAlike (among operator before ⟨name, isName, .explode⟩ after)
          (among operator before ⟨name, isName, .plain⟩ after) bound bound) := by
  refine ⟨?_, ?_⟩
  · intro text values'
    refine ⟨isCut_takeClusters _ _, expandAlike_among ?_ ?_⟩
    · rw [contributions_of_insert, contributions_of_insert]
      exact VarSpec.contributionsOf_text_congr rfl rfl
    · intro other membership
      cases membership
  · intro before after
    refine ⟨?_, ?_, ?_⟩
    · intro items
      refine expandAlike_among ?_ fun _ _ => rfl
      rw [contributions_of_insert, contributions_of_insert]
      exact VarSpec.contributionsOf_list_congr rfl rfl items
    · intro list
      refine expandAlike_among ?_ fun _ _ => rfl
      rw [contributions_of_insert, contributions_of_insert]
      exact VarSpec.contributionsOf_associative_congr rfl rfl list
    · intro text
      refine expandAlike_among ?_ fun _ _ => rfl
      rw [contributions_of_insert, contributions_of_insert]
      exact VarSpec.contributionsOf_text_congr rfl rfl

/-- A line break of two characters and a letter, cut behind one cluster. Both characters of
the line break are kept. -/
theorem expansion_of_modifier_line_break :
    ∃ shortened : ExpressionSpelling,
      shortened.bracedText = "\x7b?x:01\x7d" ∧
      shortened.expansion (.ofBindings [("x", .text "\r\nf")]) = .ok "?x=%0D%0A" := by
  let isName : VariableName.IsName ['x'] := VariableName.isValid_iff_isName.mp (by decide)
  let one : LengthSpelling :=
    ⟨['0', '1'], List.all_eq_true.mp rfl, by decide, by decide, by decide⟩
  obtain ⟨-, expanded, shortenedExpands, plainExpands⟩ :=
    (expansion_of_modifier .query isName one .empty).1 "\r\nf" .empty
  have written : expansion (among .query [] ⟨['x'], isName, .plain⟩ [])
      (.insert .empty "x" (.text (String.ofList (takeClusters 1 "\r\nf".toList)))) =
        .ok "?x=%0D%0A" := by
    decide
  obtain rfl := Except.ok.inj (plainExpands.symm.trans written)
  exact ⟨_, by decide, shortenedExpands⟩

end ExpressionSpelling

end UriExpansion
