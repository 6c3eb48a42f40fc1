import Mathlib.Data.List.Forall2
import UriExpansion.Proofs.Binding.Texts
import UriExpansion.Proofs.CommandLine.Expand
import UriExpansion.Proofs.Text.Delimiter

/-!
Assignments on the command line, and how the command that expands a template ends. Each
assignment is split at its first equals sign, and the values assigned to a name go behind
what the file binds it to. Faults are told in a fixed order: the template first, then the
file, then the first assignment that is none.
-/

namespace UriExpansion.CommandLine

/-- A text that assigns a value to a name. The value may hold further equals signs. -/
structure IsAssignment (text name value : String) : Prop where
  written : text = name ++ "=" ++ value
  noEquals : '=' ∉ name.toList
  name_ne_empty : name ≠ ""

/-- A text without an equals sign, or with nothing in front of the first one. -/
def IsMalformed (text : String) : Prop :=
  '=' ∉ text.toList ∨ text.toList.head? = some '='

theorem splitAssignment_append_cons {name : List Char} (absent : '=' ∉ name)
    (value : List Char) :
    splitAssignment (String.ofList (name ++ '=' :: value)) =
      if name = [] then .error (.invalidAssignment (String.ofList (name ++ '=' :: value)))
      else .ok (String.ofList name, String.ofList value) := by
  obtain ⟨before, after⟩ := Text.span_append_cons absent value
  simp only [splitAssignment, String.toList_ofList, before, after, List.isEmpty_iff]

theorem splitAssignment_of_noEquals {text : String} (noEquals : '=' ∉ text.toList) :
    splitAssignment text = .error (.invalidAssignment text) := by
  have noRest := (Text.span_append noEquals []).2
  rw [List.append_nil] at noRest
  simp only [splitAssignment, noRest]
  rfl

theorem splitAssignment_of_isAssignment {text name value : String}
    (isAssignment : IsAssignment text name value) :
    splitAssignment text = .ok (name, value) := by
  obtain ⟨rfl, noEquals, named⟩ := isAssignment
  have written : name ++ "=" ++ value =
      String.ofList (name.toList ++ '=' :: value.toList) := by
    rw [String.ext_iff]
    simp
  rw [written, splitAssignment_append_cons noEquals, if_neg (by simpa using named)]
  simp

theorem splitAssignment_of_isMalformed {text : String} (malformed : IsMalformed text) :
    splitAssignment text = .error (.invalidAssignment text) := by
  rcases malformed with noEquals | first
  · exact splitAssignment_of_noEquals noEquals
  · obtain ⟨rest, starts⟩ := List.head?_eq_some_iff.mp first
    have written : text = String.ofList ([] ++ '=' :: rest) := by
      rw [List.nil_append, ← starts, String.ofList_toList]
    rw [written, splitAssignment_append_cons List.not_mem_nil, if_pos rfl]

/-- Every text that is not malformed is an assignment. -/
theorem exists_isAssignment_or_isMalformed (text : String) :
    (∃ pair : String × String, IsAssignment text pair.1 pair.2) ∨ IsMalformed text := by
  by_cases equals : '=' ∈ text.toList
  · obtain ⟨name, value, split, absent⟩ := List.eq_append_cons_of_mem equals
    cases name with
    | nil =>
        rw [List.nil_append] at split
        exact .inr (.inr (by rw [split, List.head?_cons]))
    | cons c rest =>
        refine .inl ⟨(String.ofList (c :: rest), String.ofList value), ?_, by simpa using absent,
          by simp [String.ext_iff]⟩
        rw [String.ext_iff, split]
        simp
  · exact .inr (.inl equals)

/-- The names and values that assignments are split into. -/
abbrev AreAssignments : List String → List (String × String) → Prop :=
  List.Forall₂ fun text pair => IsAssignment text pair.1 pair.2

theorem foldlM_assign_append {before : List String} {pairs : List (String × String)}
    (split : AreAssignments before pairs) (after : List String) (values : Variables) :
    (before ++ after).foldlM assign values = after.foldlM assign (values.appendTexts pairs) := by
  induction split generalizing values with
  | nil => rfl
  | @cons text pair rest restPairs isAssignment _ inductionHypothesis =>
      have assigned : assign values text = .ok (values.appendText pair.1 pair.2) := by
        rw [assign, splitAssignment_of_isAssignment isAssignment]
        rfl
      rw [List.cons_append, List.foldlM_cons, assigned]
      exact inductionHypothesis _

theorem foldlM_assign_of_areAssignments {assignments : List String}
    {pairs : List (String × String)} (split : AreAssignments assignments pairs)
    (values : Variables) : assignments.foldlM assign values = .ok (values.appendTexts pairs) := by
  have whole := foldlM_assign_append split [] values
  rw [List.append_nil] at whole
  exact whole

theorem foldlM_assign_of_isMalformed {before : List String} {pairs : List (String × String)}
    {text : String} (split : AreAssignments before pairs) (malformed : IsMalformed text)
    (after : List String) (values : Variables) :
    (before ++ text :: after).foldlM assign values = .error (.invalidAssignment text) := by
  rw [foldlM_assign_append split, List.foldlM_cons, assign,
    splitAssignment_of_isMalformed malformed]
  rfl

/-- Either all texts are assignments or there is a first one that is none. -/
theorem exists_areAssignments_or_isMalformed (assignments : List String) :
    (∃ pairs, AreAssignments assignments pairs) ∨
      ∃ before pairs text after, assignments = before ++ text :: after ∧
        AreAssignments before pairs ∧ IsMalformed text := by
  induction assignments with
  | nil => exact .inl ⟨[], .nil⟩
  | cons first rest inductionHypothesis =>
      rcases exists_isAssignment_or_isMalformed first with ⟨pair, isAssignment⟩ | malformed
      · rcases inductionHypothesis with
          ⟨pairs, split⟩ | ⟨before, pairs, text, after, rfl, split, malformed⟩
        · exact .inl ⟨pair :: pairs, .cons isAssignment split⟩
        · exact .inr ⟨first :: before, pair :: pairs, text, after, rfl,
            .cons isAssignment split, malformed⟩
      · exact .inr ⟨[], [], first, rest, rfl, .nil, malformed⟩

end UriExpansion.CommandLine
