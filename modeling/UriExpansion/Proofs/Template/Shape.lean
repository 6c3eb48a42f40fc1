import UriExpansion.Proofs.Percent.Skeleton
import UriExpansion.Proofs.Template.Datum
import UriExpansion.Proofs.Template.Stability
import UriExpansion.Proofs.Text.Grapheme
import Mathlib.Data.List.Forall2

/-!
Values cannot add delimiters. Where no expression lets reserved characters through, the
delimiters of an expansion depend on the shape of the values alone: on what kind of value
every variable has, how many items or members it holds, and which of them are empty.

Both runs are followed side by side. Data of the same shape make contributions of the same
shape, and what they write, piece by piece, has the same skeleton.
-/

namespace UriExpansion

def SameEmptiness (left right : String) : Prop :=
  left = "" ↔ right = ""

instance (left right : String) : Decidable (SameEmptiness left right) :=
  inferInstanceAs (Decidable (left = "" ↔ right = ""))

inductive Value.SameShape : Value → Value → Prop
  | text {left right : String} :
      SameEmptiness left right → SameShape (.text left) (.text right)
  | list {left right : List String} :
      List.Forall₂ SameEmptiness left right → SameShape (.list left) (.list right)
  | associative {left right : AssociativeList} :
      List.Forall₂ (fun pair pair' =>
        SameEmptiness pair.1 pair'.1 ∧ SameEmptiness pair.2 pair'.2) left.pairs right.pairs →
      SameShape (.associative left) (.associative right)

/-- Whether the same names are bound, each to values of the same shape. -/
def Variables.SameShape (left right : Variables) : Prop :=
  ∀ name, Option.Rel Value.SameShape (left.get? name) (right.get? name)

theorem Variables.sameShape_of_forall₂ {left right : Variables}
    (same : List.Forall₂ (fun binding binding' =>
      binding.1 = binding'.1 ∧ binding.2.SameShape binding'.2) left.bindings right.bindings) :
    left.SameShape right := by
  intro name
  unfold get?
  generalize left.bindings = bindings, right.bindings = bindings' at same ⊢
  induction same with
  | nil => exact .none
  | @cons binding binding' _ _ first _ inductionHypothesis =>
      obtain ⟨other, value⟩ := binding
      obtain ⟨_, value'⟩ := binding'
      obtain ⟨rfl, values⟩ := first
      rw [List.lookup_cons, List.lookup_cons]
      cases name == other with
      | true => exact .some values
      | false => exact inductionHypothesis

/-- Data of the same kind and of the same shape, given by a variable of this name. -/
inductive Datum.SameShape (name : String) : Datum → Datum → Prop
  | single {left right : String} :
      SameEmptiness left right → SameShape name (.single name left) (.single name right)
  | joined {left right : List String} :
      List.Forall₂ SameEmptiness left right →
      SameShape name (.joined name left) (.joined name right)
  | member {key value key' value' : String} :
      SameEmptiness value value' → SameShape name (.member key value) (.member key' value')

theorem Modifier.apply_eq_empty_iff (modifier : Modifier) (text : String) :
    modifier.apply text = "" ↔ text = "" := by
  cases modifier with
  | plain | explode => exact Iff.rfl
  | upTo length positive bounded =>
      rw [apply, String.ofList_eq_empty_iff, Text.Grapheme.takeClusters_eq_nil_iff positive,
        String.toList_eq_nil_iff]

namespace VarSpec

theorem sameShape_dataOf (spec : VarSpec) {value value' : Value}
    (sameShape : value.SameShape value') :
    List.Forall₂ (Datum.SameShape spec.name) (spec.dataOf value) (spec.dataOf value') := by
  cases sameShape with
  | @text left right same =>
      refine .cons (.single ?_) .nil
      rw [SameEmptiness, Modifier.apply_eq_empty_iff, Modifier.apply_eq_empty_iff]
      exact same
  | list same =>
      simp only [dataOf]
      split
      · rw [List.forall₂_map_left_iff, List.forall₂_map_right_iff]
        exact same.imp fun _ _ => .single
      · exact .cons (.joined same) .nil
  | @associative left right same =>
      have empty_iff : left.pairs = [] ↔ right.pairs = [] := by
        rw [← List.length_eq_zero_iff, same.length_eq, List.length_eq_zero_iff]
      simp only [dataOf, empty_iff]
      split
      · exact .nil
      split
      · rw [List.forall₂_map_left_iff, List.forall₂_map_right_iff]
        exact same.imp fun _ _ pairs => .member pairs.2
      · refine .cons (.joined ?_) .nil
        rw [List.flatMap_def, List.flatMap_def]
        refine List.rel_flatten ?_
        rw [List.forall₂_map_left_iff, List.forall₂_map_right_iff]
        exact same.imp fun _ _ pairs => .cons pairs.1 (.cons pairs.2 .nil)

theorem sameShape_data (spec : VarSpec) {values values' : Variables}
    (sameShape : values.SameShape values') :
    List.Forall₂ (Datum.SameShape spec.name) (spec.data values) (spec.data values') := by
  have bound := sameShape spec.name
  unfold data
  generalize values.get? spec.name = value?, values'.get? spec.name = value?' at bound ⊢
  cases bound with
  | none => exact .nil
  | some same => exact spec.sameShape_dataOf same

end VarSpec

/-- The delimiters of a text. -/
def skeletonOf (text : String) : List UInt8 :=
  Percent.skeleton (Text.Utf8.encode text.toList)

theorem skeletonOf_append {left : String} (finished : IsFinishedText left) (right : String) :
    skeletonOf (left ++ right) = skeletonOf left ++ skeletonOf right := by
  unfold skeletonOf
  rw [String.toList_append, Text.Utf8.encode_append, Percent.skeleton_append finished.chars]

/-- Finished texts with the same delimiters. -/
structure SameSkeleton (left right : String) : Prop where
  leftFinished : IsFinishedText left
  rightFinished : IsFinishedText right
  skeleton : skeletonOf left = skeletonOf right

namespace SameSkeleton

theorem refl {text : String} (finished : IsFinishedText text) : SameSkeleton text text :=
  ⟨finished, finished, rfl⟩

theorem append {left right left' right' : String} (fronts : SameSkeleton left left')
    (backs : SameSkeleton right right') : SameSkeleton (left ++ right) (left' ++ right') where
  leftFinished := fronts.leftFinished.append backs.leftFinished
  rightFinished := fronts.rightFinished.append backs.rightFinished
  skeleton := by
    rw [skeletonOf_append fronts.leftFinished, skeletonOf_append fronts.rightFinished,
      fronts.skeleton, backs.skeleton]

theorem join {parts parts' : List String} (same : List.Forall₂ SameSkeleton parts parts') :
    SameSkeleton (String.join parts) (String.join parts') := by
  induction same with
  | nil => exact refl ⟨Percent.isFinished_nil⟩
  | cons first _ inductionHypothesis =>
      rw [String.join_cons, String.join_cons]
      exact first.append inductionHypothesis

theorem intercalate {delimiter : String} (delimiterFinished : IsFinishedText delimiter)
    {parts parts' : List String} (same : List.Forall₂ SameSkeleton parts parts') :
    SameSkeleton (String.intercalate delimiter parts) (String.intercalate delimiter parts') := by
  induction same with
  | nil => exact refl ⟨Percent.isFinished_nil⟩
  | cons first rest inductionHypothesis =>
      cases rest with
      | nil =>
          rw [String.intercalate_singleton, String.intercalate_singleton]
          exact first
      | cons =>
          rw [String.intercalate_cons_cons, String.intercalate_cons_cons]
          exact (first.append (refl delimiterFinished)).append inductionHypothesis

end SameSkeleton

namespace Allowed

/-- Texts leave no delimiters behind, so all are alike. -/
theorem sameSkeleton_encode (left right : String) :
    SameSkeleton (unreserved.encode left) (unreserved.encode right) where
  leftFinished := unreserved.isFinishedText_encode left
  rightFinished := unreserved.isFinishedText_encode right
  skeleton := by
    unfold skeletonOf encode
    rw [String.toList_ofList, String.toList_ofList, skeleton_encodeChars, skeleton_encodeChars]

theorem sameSkeleton_encodeJoined {items items' : List String}
    (same : List.Forall₂ SameEmptiness items items') :
    SameSkeleton (unreserved.encodeJoined items) (unreserved.encodeJoined items') := by
  have comma : IsFinishedText "," := by decide +kernel
  refine SameSkeleton.intercalate comma ?_
  rw [List.forall₂_map_left_iff, List.forall₂_map_right_iff]
  exact same.imp fun left right _ => sameSkeleton_encode left right

theorem encode_eq_empty_iff (allowed : Allowed) (text : String) :
    allowed.encode text = "" ↔ text = "" := by
  rw [encode, String.ofList_eq_empty_iff]
  constructor
  · intro empty
    by_contra nonempty
    exact allowed.encodeChars_ne_nil (mt String.toList_eq_nil_iff.mp nonempty) empty
  · rintro rfl
    exact allowed.encodeChars_nil

theorem sameEmptiness_encodeJoined (allowed : Allowed) {items items' : List String}
    (same : List.Forall₂ SameEmptiness items items') :
    SameEmptiness (allowed.encodeJoined items) (allowed.encodeJoined items') := by
  -- From the second item on there is a comma.
  cases same with
  | nil => exact Iff.rfl
  | cons first rest =>
      cases rest with
      | nil =>
          simp only [SameEmptiness, encodeJoined, List.map_singleton,
            String.intercalate_singleton, encode_eq_empty_iff]
          exact first
      | cons => simp [SameEmptiness, encodeJoined]

end Allowed

/-- Contributions that are written with the same delimiters. -/
structure Contribution.SameShape (left right : Contribution) : Prop where
  name : Option.Rel SameSkeleton left.name? right.name?
  value : SameSkeleton left.value right.value
  emptiness : SameEmptiness left.value right.value

theorem Contribution.SameShape.text {left right : Contribution}
    (sameShape : left.SameShape right) (operator : Operator) :
    SameSkeleton (left.text operator) (right.text operator) := by
  obtain ⟨name?, value⟩ := left
  obtain ⟨name?', value'⟩ := right
  obtain ⟨names, values, emptiness⟩ := sameShape
  have equals : SameSkeleton "=" "=" := .refl (by decide +kernel)
  cases names with
  | none => exact values
  | some names =>
      have empty_iff : value = "" ↔ value' = "" := emptiness
      simp only [Contribution.text, String.isEmpty_iff, empty_iff]
      split
      · exact names.append (.refl operator.isFinishedText_ifEmpty?)
      · exact (names.append equals).append values

/-- Under an operator that escapes delimiters, data of the same shape are written alike. -/
theorem Datum.SameShape.contribution {name : String} (nameFinished : IsFinishedText name)
    {operator : Operator} (escapes : operator.allowed = .unreserved) {left right : Datum}
    (sameShape : left.SameShape name right) :
    (left.contribution operator).SameShape (right.contribution operator) := by
  have names : Option.Rel SameSkeleton (if operator.named then some name else none)
      (if operator.named then some name else none) := by
    split
    · exact .some (.refl nameFinished)
    · exact .none
  cases sameShape with
  | @single left right same =>
      simp only [Datum.contribution, escapes]
      refine ⟨names, Allowed.sameSkeleton_encode left right, ?_⟩
      simpa only [SameEmptiness, Allowed.encode_eq_empty_iff] using same
  | joined same =>
      simp only [Datum.contribution, escapes]
      exact ⟨names, Allowed.sameSkeleton_encodeJoined same,
        Allowed.sameEmptiness_encodeJoined _ same⟩
  | @member key value key' value' same =>
      simp only [Datum.contribution, escapes]
      refine ⟨.some (Allowed.sameSkeleton_encode key key'),
        Allowed.sameSkeleton_encode value value', ?_⟩
      simpa only [SameEmptiness, Allowed.encode_eq_empty_iff] using same

namespace Expression

theorem sameShape_contributions {expression : Expression}
    (named : ∀ spec ∈ expression.specs, spec.IsNamed)
    (escapes : expression.operator.allowed = .unreserved) {values values' : Variables}
    (sameShape : values.SameShape values') :
    List.Forall₂ Contribution.SameShape (expression.contributions values)
      (expression.contributions values') := by
  rw [contributions, contributions, List.flatMap_def, List.flatMap_def]
  refine List.rel_flatten ?_
  rw [List.forall₂_map_left_iff, List.forall₂_map_right_iff, List.forall₂_same]
  intro spec membership
  rw [VarSpec.contributions_eq_map, VarSpec.contributions_eq_map, List.forall₂_map_left_iff,
    List.forall₂_map_right_iff]
  exact (spec.sameShape_data sameShape).imp fun _ _ data =>
    data.contribution (named spec membership).isFinishedText escapes

theorem sameSkeleton_expand {expression : Expression}
    (named : ∀ spec ∈ expression.specs, spec.IsNamed)
    (escapes : expression.operator.allowed = .unreserved) {values values' : Variables}
    (sameShape : values.SameShape values') :
    SameSkeleton (expression.expand values) (expression.expand values') := by
  have same := sameShape_contributions named escapes sameShape
  by_cases nothing : expression.contributions values = []
  · have nothing' : expression.contributions values' = [] := by
      rwa [nothing, List.forall₂_nil_left_iff] at same
    rw [expand_of_contributions_eq_nil nothing, expand_of_contributions_eq_nil nothing']
    exact .refl ⟨Percent.isFinished_nil⟩
  · have something' : expression.contributions values' ≠ [] := by
      intro nothing'
      rw [nothing', List.forall₂_nil_right_iff] at same
      exact nothing same
    rw [expand_of_contributions_ne_nil nothing, expand_of_contributions_ne_nil something']
    refine SameSkeleton.append (.refl expression.operator.isFinishedText_first?) ?_
    refine SameSkeleton.intercalate expression.operator.isFinishedText_separator ?_
    rw [List.forall₂_map_left_iff, List.forall₂_map_right_iff]
    exact same.imp fun _ _ contributions => contributions.text expression.operator

end Expression

theorem Operator.allowed_eq_unreserved {operator : Operator} (notReserved : operator ≠ .reserved)
    (notFragment : operator ≠ .fragment) : operator.allowed = .unreserved := by
  cases operator <;> first | rfl | contradiction

namespace Template

/-- Two expansions with values of the same shape have the same delimiters, in a template
without reserved expansion. -/
theorem skeletonOf_expand {written : String} {template : Template}
    (accepted : read written = .ok template)
    (escapes : ∀ body, .expression body ∈ template.elements →
      body.operator ≠ .reserved ∧ body.operator ≠ .fragment)
    {values values' : Variables} (sameShape : values.SameShape values') :
    skeletonOf (template.expand values) = skeletonOf (template.expand values') ∧
      ∀ byte ∈ skeletonOf (template.expand values), Percent.isReserved byte = true := by
  have finished := isFinishedText_expand accepted values
  refine ⟨?_, Percent.isReserved_of_mem_skeleton finished.chars⟩
  obtain ⟨spelling, -, rfl⟩ := TemplateSpelling.exists_of_read accepted
  rw [expand_eq_join, expand_eq_join]
  refine (SameSkeleton.join ?_).skeleton
  rw [List.forall₂_map_left_iff, List.forall₂_map_right_iff, List.forall₂_same]
  intro element membership
  have isRead := spelling.isRead_elements element membership
  cases element with
  | literal text => exact .refl isRead
  | expression body =>
      obtain ⟨notReserved, notFragment⟩ := escapes body membership
      exact Expression.sameSkeleton_expand isRead
        (Operator.allowed_eq_unreserved notReserved notFragment) sameShape

/-- A text and an item that look like further parameters, against harmless ones. -/
theorem skeletonOf_expand_ampersand :
    (read "/a{?list*,q:3}").map (expand · ⟨[("list", .list ["x&y=", ""]),
        ("q", .text "#&=")], by decide +kernel⟩) = .ok "/a?list=x%26y%3D&list=&q=%23%26%3D" ∧
      skeletonOf "/a?list=x%26y%3D&list=&q=%23%26%3D" = skeletonOf "/a?list=1&list=&q=2" := by
  obtain ⟨template, accepted, expanded, expanded', escapes⟩ : ∃ template : Template,
      read "/a{?list*,q:3}" = .ok template ∧
        template.expand ⟨[("list", .list ["x&y=", ""]), ("q", .text "#&=")],
          by decide +kernel⟩ = "/a?list=x%26y%3D&list=&q=%23%26%3D" ∧
        template.expand ⟨[("list", .list ["1", ""]), ("q", .text "2")], by decide +kernel⟩ =
          "/a?list=1&list=&q=2" ∧
        ∀ body, .expression body ∈ template.elements →
          body.operator ≠ .reserved ∧ body.operator ≠ .fragment := by
    refine ⟨⟨[.literal "/a", .expression ⟨.query, [⟨"list", .explode⟩,
      ⟨"q", .upTo 3 (by decide) (by decide)⟩], List.cons_ne_nil _ _⟩]⟩,
      by decide +kernel, by decide +kernel, by decide +kernel, ?_⟩
    simp
  have sameShape : Variables.SameShape
      ⟨[("list", .list ["x&y=", ""]), ("q", .text "#&=")], by decide +kernel⟩
      ⟨[("list", .list ["1", ""]), ("q", .text "2")], by decide +kernel⟩ :=
    Variables.sameShape_of_forall₂ (.cons
      ⟨rfl, .list (.cons (by decide) (.cons (by decide) .nil))⟩
      (.cons ⟨rfl, .text (by decide)⟩ .nil))
  have same := (skeletonOf_expand accepted escapes sameShape).1
  rw [expanded, expanded'] at same
  rw [accepted]
  exact ⟨congrArg Except.ok expanded, same⟩

end Template

end UriExpansion
