import UriExpansion.Proofs.Template.Datum
import UriExpansion.Proofs.Template.Grammar

/-!
Expansions are finished. Everything that an expansion puts together needs no further
encoding: literals and values because they were encoded, names because of their grammar,
and delimiters because they may stand in a URI. A text of which this holds is left alone
by encoding, by reading and expanding it as a template, and by reserved expansion.
-/

namespace UriExpansion

/-- A string that needs no further encoding. This is a structure so that no text is
unfolded to see whether it holds. -/
structure IsFinishedText (text : String) : Prop where
  chars : Percent.IsFinished text.toList

theorem isFinishedText_iff {text : String} :
    IsFinishedText text ↔ Percent.IsFinished text.toList :=
  ⟨IsFinishedText.chars, IsFinishedText.mk⟩

instance (text : String) : Decidable (IsFinishedText text) :=
  decidable_of_iff _ isFinishedText_iff.symm

namespace IsFinishedText

theorem append {left right : String} (leftFinished : IsFinishedText left)
    (rightFinished : IsFinishedText right) : IsFinishedText (left ++ right) := by
  constructor
  rw [String.toList_append]
  exact Percent.isFinished_append leftFinished.chars rightFinished.chars

theorem intercalate {delimiter : String} {parts : List String}
    (delimiterFinished : IsFinishedText delimiter)
    (partsFinished : ∀ part ∈ parts, IsFinishedText part) :
    IsFinishedText (String.intercalate delimiter parts) := by
  constructor
  rw [String.toList_intercalate]
  refine Text.intercalate_induction Percent.isFinished_nil Percent.isFinished_append
    delimiterFinished.chars ?_
  intro part membership
  obtain ⟨text, inParts, rfl⟩ := List.mem_map.mp membership
  exact (partsFinished text inParts).chars

theorem join {parts : List String} (partsFinished : ∀ part ∈ parts, IsFinishedText part) :
    IsFinishedText (String.join parts) := by
  induction parts with
  | nil => exact ⟨Percent.isFinished_nil⟩
  | cons first rest inductionHypothesis =>
      rw [String.join_cons]
      obtain ⟨firstFinished, restFinished⟩ := List.forall_mem_cons.mp partsFinished
      exact firstFinished.append (inductionHypothesis restFinished)

end IsFinishedText

theorem Allowed.isFinishedText_encode (allowed : Allowed) (text : String) :
    IsFinishedText (allowed.encode text) := by
  constructor
  rw [encode, String.toList_ofList]
  exact allowed.isFinished_encodeChars text.toList

theorem Allowed.isFinishedText_encodeJoined (allowed : Allowed) (items : List String) :
    IsFinishedText (allowed.encodeJoined items) := by
  have comma : IsFinishedText "," := by decide
  refine comma.intercalate ?_
  intro part membership
  obtain ⟨item, -, rfl⟩ := List.mem_map.mp membership
  exact allowed.isFinishedText_encode item

namespace Operator

theorem isFinishedText_first? (operator : Operator) :
    IsFinishedText (String.ofList operator.first?.toList) := by
  cases operator <;> decide

theorem isFinishedText_separator (operator : Operator) :
    IsFinishedText (String.singleton operator.separator) := by
  cases operator <;> decide

theorem isFinishedText_ifEmpty? (operator : Operator) :
    IsFinishedText (String.ofList operator.ifEmpty?.toList) := by
  cases operator <;> decide

end Operator

/-- A contribution whose parts need no further encoding. -/
structure Contribution.IsFinished (contribution : Contribution) : Prop where
  name : ∀ name ∈ contribution.name?, IsFinishedText name
  value : IsFinishedText contribution.value

theorem Contribution.IsFinished.text {contribution : Contribution}
    (finished : contribution.IsFinished) (operator : Operator) :
    IsFinishedText (contribution.text operator) := by
  obtain ⟨name?, value⟩ := contribution
  have equals : IsFinishedText "=" := by decide
  cases name? with
  | none => exact finished.value
  | some name =>
      have nameFinished := finished.name name rfl
      simp only [Contribution.text]
      split
      · exact nameFinished.append operator.isFinishedText_ifEmpty?
      · exact (nameFinished.append equals).append finished.value

theorem VarSpec.IsNamed.isFinishedText {spec : VarSpec} (named : spec.IsNamed) :
    IsFinishedText spec.name :=
  ⟨VariableName.IsName.isFinished named⟩

theorem Datum.IsNamed.isFinished_contribution {datum : Datum} (named : datum.IsNamed)
    (operator : Operator) : (datum.contribution operator).IsFinished := by
  cases datum with
  | single name text =>
      have nameFinished : IsFinishedText name := ⟨VariableName.IsName.isFinished named⟩
      exact ⟨operator.forall_mem_named nameFinished, operator.allowed.isFinishedText_encode text⟩
  | joined name items =>
      have nameFinished : IsFinishedText name := ⟨VariableName.IsName.isFinished named⟩
      exact ⟨operator.forall_mem_named nameFinished,
        operator.allowed.isFinishedText_encodeJoined items⟩
  | member key value =>
      refine ⟨?_, operator.allowed.isFinishedText_encode value⟩
      rintro given ⟨⟩
      exact operator.allowed.isFinishedText_encode key

theorem VarSpec.IsNamed.contributions {spec : VarSpec} (named : spec.IsNamed)
    (operator : Operator) (values : Variables) :
    ∀ pair ∈ spec.contributions operator values, pair.IsFinished := by
  rw [VarSpec.contributions_eq_map]
  intro pair membership
  obtain ⟨datum, inData, rfl⟩ := List.mem_map.mp membership
  exact (named.data values datum inData).isFinished_contribution operator

theorem Expression.isFinishedText_expand {expression : Expression}
    (named : ∀ spec ∈ expression.specs, spec.IsNamed) (values : Variables) :
    IsFinishedText (expression.expand values) := by
  by_cases nothing : expression.contributions values = []
  · rw [expand_of_contributions_eq_nil nothing]
    exact ⟨Percent.isFinished_nil⟩
  · rw [expand_of_contributions_ne_nil nothing, joined]
    refine expression.operator.isFinishedText_first?.append ?_
    refine expression.operator.isFinishedText_separator.intercalate ?_
    intro part membership
    obtain ⟨pair, inContributions, rfl⟩ := List.mem_map.mp membership
    obtain ⟨spec, inSpecs, contributed⟩ := List.mem_flatMap.mp inContributions
    exact ((named spec inSpecs).contributions _ values pair contributed).text _

/-- An element as it is read: its text is encoded, or its variables are named by the
grammar. -/
def Element.IsRead : Element → Prop
  | .literal text => IsFinishedText text
  | .expression body => ∀ spec ∈ body.specs, spec.IsNamed

theorem Element.IsRead.expand {element : Element} (isRead : element.IsRead)
    (values : Variables) : IsFinishedText (element.expand values) := by
  cases element with
  | literal text => exact isRead
  | expression body => exact Expression.isFinishedText_expand isRead values

theorem LiteralRun.isRead_elements (run : LiteralRun) :
    ∀ element ∈ run.elements, element.IsRead := by
  intro element membership
  simp only [elements, Template.literals] at membership
  split at membership
  · cases membership
  · rw [List.mem_singleton.mp membership]
    constructor
    rw [String.toList_ofList]
    exact Allowed.isFinished_encodeChars _ run.text

theorem ExpressionSpelling.isNamed_specs (spelling : ExpressionSpelling) :
    ∀ spec ∈ spelling.meaning.specs, spec.IsNamed := by
  intro spec membership
  obtain ⟨var, -, rfl⟩ := List.mem_map.mp membership
  rw [VarSpec.IsNamed, VarSpelling.meaning, String.toList_ofList]
  exact var.isName

theorem TemplateSpelling.isRead_elements (spelling : TemplateSpelling) :
    ∀ element ∈ spelling.elements, element.IsRead := by
  induction spelling with
  | last run => exact run.isRead_elements
  | braced run body later inductionHypothesis =>
      rw [elements, List.forall_mem_append, List.forall_mem_cons]
      exact ⟨run.isRead_elements, body.isNamed_specs, inductionHypothesis⟩

theorem Template.isFinishedText_expand {written : String} {template : Template}
    (accepted : read written = .ok template) (values : Variables) :
    IsFinishedText (template.expand values) := by
  obtain ⟨spelling, -, rfl⟩ := TemplateSpelling.exists_of_read accepted
  rw [expand_eq_join]
  refine IsFinishedText.join ?_
  intro part membership
  obtain ⟨element, inElements, rfl⟩ := List.mem_map.mp membership
  exact (spelling.isRead_elements element inElements).expand values

/-- A URI text that comes out again of all that may be done with it: encoding it, reading
and expanding it as a template, and expanding it as the value of a variable. -/
structure IsStable (output : String) : Prop where
  finished : Percent.AreFinished (Text.Utf8.encode output.toList)
  printable : ∀ c ∈ output.toList, c.toNat < 0x80 ∧ c ∉ ['\x7b', '\x7d', ' ', '"']
  encoded : Allowed.unreservedAndReserved.encode output = output
  literal : ∃ template : Template, Template.read output = .ok template ∧
    template.elements = (if output = "" then [] else [.literal output]) ∧
    ∀ values, template.expand values = output
  reserved : ∃ template : Template, Template.read "\x7b+x\x7d" = .ok template ∧
    ∀ values, values.get? "x" = some (.text output) → template.expand values = output

/-- An expression with the text of one variable and nothing around it. -/
theorem Expression.expand_unnamed {operator : Operator} (unnamed : operator.named = false)
    (spec : VarSpec) {values : Variables} {text : String} (plain : spec.modifier = .plain)
    (bound : values.get? spec.name = some (.text text)) :
    expand ⟨operator, [spec], List.cons_ne_nil _ _⟩ values =
      String.ofList operator.first?.toList ++ operator.allowed.encode text := by
  have pair : contributions ⟨operator, [spec], List.cons_ne_nil _ _⟩ values =
      [⟨none, operator.allowed.encode text⟩] := by
    simp [contributions, VarSpec.contributions, bound, VarSpec.contributionsOf, unnamed,
      Modifier.apply, plain]
  rw [expand_of_contributions_ne_nil (by simp [pair]), pair]
  simp [joined, Contribution.text]

theorem Expression.expand_reserved (spec : VarSpec) {values : Variables} {text : String}
    (plain : spec.modifier = .plain) (bound : values.get? spec.name = some (.text text)) :
    expand ⟨.reserved, [spec], List.cons_ne_nil _ _⟩ values =
      Allowed.unreservedAndReserved.encode text := by
  rw [expand_unnamed rfl spec plain bound]
  exact String.empty_append

namespace IsFinishedText

theorem encode {output : String} (finished : IsFinishedText output) :
    Allowed.unreservedAndReserved.encode output = output := by
  rw [Allowed.encode, Allowed.encodeChars_of_isFinished finished.chars, String.ofList_toList]

theorem printable {output : String} (finished : IsFinishedText output) :
    ∀ c ∈ output.toList, c.toNat < 0x80 ∧ c ∉ ['\x7b', '\x7d', ' ', '"'] := by
  have absent : ∀ c ∈ ['\x7b', '\x7d', ' ', '"'],
      (!Allowed.unreservedAndReserved.contains c.toUInt8) = true :=
    List.all_eq_true.mp (by decide)
  intro c membership
  refine ⟨Percent.ascii_of_isFinished finished.chars c membership, fun excluded => ?_⟩
  rcases Percent.contains_of_isFinished finished.chars c membership with contained | rfl
  · have refuted := absent c excluded
    rw [contained] at refuted
    cases refuted
  · revert excluded
    decide

theorem read {output : String} (finished : IsFinishedText output) :
    Template.read output = .ok ⟨if output = "" then [] else [.literal output]⟩ := by
  have noOpening : '\x7b' ∉ output.toList := fun membership =>
    (finished.printable _ membership).2 List.mem_cons_self
  have spelled : (TemplateSpelling.last ⟨output.toList, noOpening⟩).text = output.toList := rfl
  rw [TemplateSpelling.read_of_text spelled, TemplateSpelling.meaning,
    TemplateSpelling.elements, LiteralRun.elements, Template.literals,
    Allowed.encodeChars_of_isFinished finished.chars, String.ofList_toList]
  simp

theorem isStable {output : String} (finished : IsFinishedText output) : IsStable output where
  finished := finished.chars
  printable := finished.printable
  encoded := finished.encode
  literal := by
    refine ⟨_, finished.read, rfl, fun values => ?_⟩
    by_cases empty : output = ""
    · simp [empty, Template.expand]
    · simp [empty, Template.expand, Element.expand]
  reserved := by
    have read : Template.read "\x7b+x\x7d" =
        .ok ⟨[.expression ⟨.reserved, [⟨"x", .plain⟩], List.cons_ne_nil _ _⟩]⟩ := by
      decide +kernel
    refine ⟨_, read, fun values bound => ?_⟩
    have written := Expression.expand_reserved ⟨"x", .plain⟩ rfl bound
    simp [Template.expand, Element.expand, written, finished.encode]

end IsFinishedText

namespace Template

/-- Every expansion is a stable URI text. -/
theorem expand_isStable {written : String} {template : Template}
    (accepted : read written = .ok template) (values : Variables) :
    IsStable (template.expand values) :=
  (isFinishedText_expand accepted values).isStable

/-- The value of a query ends in a percent sign. -/
theorem expand_isStable_percent :
    (read "a b\x7b?x\x7d").map (expand · (.ofBindings [("x", .text "100%")])) =
      .ok "a%20b?x=100%25" ∧ IsStable "a%20b?x=100%25" := by
  obtain ⟨template, accepted, expanded⟩ : ∃ template : Template,
      read "a b\x7b?x\x7d" = .ok template ∧
        template.expand (.ofBindings [("x", .text "100%")]) = "a%20b?x=100%25" :=
    ⟨⟨[.literal "a%20b", .expression ⟨.query, [⟨"x", .plain⟩], List.cons_ne_nil _ _⟩]⟩,
      by decide +kernel, by decide +kernel⟩
  have stable := expand_isStable accepted (.ofBindings [("x", .text "100%")])
  rw [expanded] at stable
  rw [accepted]
  exact ⟨congrArg Except.ok expanded, stable⟩

end Template

theorem Operator.named_eq_false_of_allowed {operator : Operator}
    (allowed : operator.allowed = .unreservedAndReserved) : operator.named = false := by
  cases operator <;> first | rfl | cases allowed

namespace Allowed

/-- Encoded text is encoded again as itself where reserved characters may stand, so it is
left alone as a literal and by the expressions that let such characters through. -/
theorem encode_idempotent (allowed : Allowed) (text : String) :
    unreservedAndReserved.encode (allowed.encode text) = allowed.encode text ∧
      (∃ template : Template, Template.read (allowed.encode text) = .ok template ∧
        template.elements =
          (if allowed.encode text = "" then [] else [.literal (allowed.encode text)]) ∧
        ∀ values, template.expand values = allowed.encode text) ∧
      ∀ (operator : Operator) (spec : VarSpec) (values : Variables),
        operator.allowed = unreservedAndReserved → spec.modifier = .plain →
        values.get? spec.name = some (.text (allowed.encode text)) →
        Expression.expand ⟨operator, [spec], List.cons_ne_nil _ _⟩ values =
          String.ofList operator.first?.toList ++ allowed.encode text := by
  have stable := (allowed.isFinishedText_encode text).isStable
  refine ⟨stable.encoded, stable.literal, ?_⟩
  intro operator spec values lets plain bound
  have unnamed := operator.named_eq_false_of_allowed lets
  rw [Expression.expand_unnamed unnamed spec plain bound, lets, stable.encoded]

/-- A stray percent sign, an escape and a letter of two bytes, as a fragment. -/
theorem encode_idempotent_fragment :
    unreserved.encode "%2%41ä" = "%252%2541%C3%A4" ∧
      Expression.expand ⟨.fragment, [.ofName "x"], List.cons_ne_nil _ _⟩
        (.ofBindings [("x", .text "%252%2541%C3%A4")]) = "#%252%2541%C3%A4" := by
  have encoded : unreserved.encode "%2%41ä" = "%252%2541%C3%A4" := by decide +kernel
  obtain ⟨-, -, passes⟩ := encode_idempotent unreserved "%2%41ä"
  rw [encoded] at passes
  exact ⟨encoded, passes .fragment (.ofName "x") (.ofBindings [("x", .text "%252%2541%C3%A4")])
    rfl rfl (by decide +kernel)⟩

end Allowed

end UriExpansion
