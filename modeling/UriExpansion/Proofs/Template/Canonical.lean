import UriExpansion.Proofs.Template.Grammar

/-!
Canonical text. The canonical text of a template spells the template, with literals that
are encoded already and with lengths that have no leading zeros, so it is read as the
template it was written for, and it is the original text exactly if that was spelled so.
-/

namespace UriExpansion

namespace ModifierSpelling

def canonical : ModifierSpelling → ModifierSpelling
  | plain => plain
  | explode => explode
  | upTo length => upTo length.canonical

/-- The digits behind the colon, if there is one. -/
def length? : ModifierSpelling → Option LengthSpelling
  | upTo length => some length
  | _ => none

theorem meaning_canonical (spelling : ModifierSpelling) :
    spelling.canonical.meaning = spelling.meaning := by
  cases spelling <;> simp [canonical, meaning, LengthSpelling.canonical]

theorem text_meaning (spelling : ModifierSpelling) :
    spelling.meaning.text.toList = spelling.canonical.text := by
  cases spelling <;> simp [canonical, meaning, text, Modifier.text, LengthSpelling.canonical]

theorem canonical_eq_self_iff (spelling : ModifierSpelling) :
    spelling.canonical = spelling ↔
      ∀ length ∈ spelling.length?, length.digits.head? ≠ some '0' := by
  cases spelling <;> simp [canonical, length?, LengthSpelling.canonical_eq_self_iff]

end ModifierSpelling

namespace VarSpelling

def canonical (spelling : VarSpelling) : VarSpelling :=
  { spelling with modifier := spelling.modifier.canonical }

theorem meaning_canonical (spelling : VarSpelling) :
    spelling.canonical.meaning = spelling.meaning := by
  simp [canonical, meaning, ModifierSpelling.meaning_canonical]

theorem text_meaning (spelling : VarSpelling) :
    spelling.meaning.text.toList = spelling.canonical.text := by
  simp [canonical, meaning, text, VarSpec.text, ModifierSpelling.text_meaning]

theorem canonical_eq_self_iff (spelling : VarSpelling) :
    spelling.canonical = spelling ↔
      ∀ length ∈ spelling.modifier.length?, length.digits.head? ≠ some '0' := by
  rw [← ModifierSpelling.canonical_eq_self_iff]
  simp [canonical, VarSpelling.ext_iff]

end VarSpelling

namespace ExpressionSpelling

def canonical (spelling : ExpressionSpelling) : ExpressionSpelling where
  operator := spelling.operator
  vars := spelling.vars.map VarSpelling.canonical
  vars_ne_nil := by simpa using spelling.vars_ne_nil

/-- The digits of all lengths. -/
def lengths (spelling : ExpressionSpelling) : List LengthSpelling :=
  spelling.vars.filterMap fun var => var.modifier.length?

theorem meaning_canonical (spelling : ExpressionSpelling) :
    spelling.canonical.meaning = spelling.meaning := by
  simp [canonical, meaning, VarSpelling.meaning_canonical]

theorem text_meaning (spelling : ExpressionSpelling) :
    spelling.meaning.text.toList = spelling.canonical.text := by
  simp [canonical, meaning, text, varsText, Expression.text, Function.comp_def,
    VarSpelling.text_meaning]

theorem canonical_eq_self_iff (spelling : ExpressionSpelling) :
    spelling.canonical = spelling ↔
      ∀ length ∈ spelling.lengths, length.digits.head? ≠ some '0' := by
  have fixed : spelling.canonical = spelling ↔
      spelling.vars.map VarSpelling.canonical = spelling.vars.map id := by
    simp [canonical, ExpressionSpelling.ext_iff]
  rw [fixed, List.map_inj_left]
  simp only [id_eq, VarSpelling.canonical_eq_self_iff, lengths, List.mem_filterMap]
  constructor
  · rintro perVar length ⟨var, membership, written⟩
    exact perVar var membership length written
  · intro perLength var membership length written
    exact perLength length ⟨var, membership, written⟩

end ExpressionSpelling

namespace LiteralRun

/-- The run as it stands in a canonical text. -/
def canonical (run : LiteralRun) : LiteralRun where
  text := Allowed.unreservedAndReserved.encodeChars run.text
  noOpening := by
    intro membership
    have finished := Allowed.isFinished_encodeChars .unreservedAndReserved run.text
    rcases Percent.contains_of_isFinished finished _ membership with contained | percent
    · revert contained
      decide
    · cases percent

theorem elements_canonical (run : LiteralRun) : run.canonical.elements = run.elements := by
  by_cases empty : run.text = []
  · simp [elements, Template.literals, canonical, empty]
  · have encodedNonempty := Allowed.encodeChars_ne_nil .unreservedAndReserved empty
    have stable := Allowed.encodeChars_of_isFinished
      (Allowed.isFinished_encodeChars .unreservedAndReserved run.text)
    simp [elements, Template.literals, canonical, empty, encodedNonempty, stable]

theorem text_elements (run : LiteralRun) :
    run.elements.flatMap (·.text.toList) = run.canonical.text := by
  by_cases empty : run.text = []
  · simp [elements, Template.literals, canonical, empty]
  · simp [elements, Template.literals, canonical, empty, Element.text]

theorem canonical_eq_self_iff (run : LiteralRun) :
    run.canonical = run ↔ Allowed.unreservedAndReserved.encodeChars run.text = run.text :=
  LiteralRun.ext_iff

end LiteralRun

namespace TemplateSpelling

def canonical : TemplateSpelling → TemplateSpelling
  | last run => last run.canonical
  | braced run body later => braced run.canonical body.canonical later.canonical

/-- The literal runs, the empty ones included. -/
def runs : TemplateSpelling → List LiteralRun
  | last run => [run]
  | braced run _ later => run :: later.runs

/-- The digits of all lengths. -/
def lengths (spelling : TemplateSpelling) : List LengthSpelling :=
  spelling.bodies.flatMap ExpressionSpelling.lengths

theorem elements_canonical (spelling : TemplateSpelling) :
    spelling.canonical.elements = spelling.elements := by
  induction spelling with
  | last run => exact run.elements_canonical
  | braced run body later inductionHypothesis =>
      simp only [canonical, elements, run.elements_canonical, body.meaning_canonical,
        inductionHypothesis]

theorem meaning_canonical (spelling : TemplateSpelling) :
    spelling.canonical.meaning = spelling.meaning :=
  congrArg Template.mk spelling.elements_canonical

theorem text_elements (spelling : TemplateSpelling) :
    spelling.elements.flatMap (·.text.toList) = spelling.canonical.text := by
  induction spelling with
  | last run => exact run.text_elements
  | braced run body later inductionHypothesis =>
      rw [elements, List.flatMap_append, List.flatMap_cons, run.text_elements,
        inductionHypothesis]
      simp [canonical, text, Element.text, ExpressionSpelling.text_meaning]

/-- The canonical text of a template is the text of its canonical spelling. -/
theorem text_meaning (spelling : TemplateSpelling) :
    spelling.meaning.text.toList = spelling.canonical.text := by
  rw [← spelling.text_elements]
  simp [meaning, Template.text, List.flatMap_map]

theorem lengths_braced (run : LiteralRun) (body : ExpressionSpelling)
    (later : TemplateSpelling) :
    (braced run body later).lengths = body.lengths ++ later.lengths :=
  List.flatMap_cons

theorem canonical_eq_self_iff (spelling : TemplateSpelling) :
    spelling.canonical = spelling ↔
      (∀ run ∈ spelling.runs,
        Allowed.unreservedAndReserved.encodeChars run.text = run.text) ∧
      ∀ length ∈ spelling.lengths, length.digits.head? ≠ some '0' := by
  induction spelling with
  | last run => simp [canonical, runs, lengths, bodies, LiteralRun.canonical_eq_self_iff]
  | braced run body later inductionHypothesis =>
      have parts : (braced run body later).canonical = braced run body later ↔
          run.canonical = run ∧ body.canonical = body ∧ later.canonical = later := by
        simp [canonical]
      rw [parts, run.canonical_eq_self_iff, body.canonical_eq_self_iff, inductionHypothesis,
        runs, lengths_braced, List.forall_mem_cons, List.forall_mem_append]
      exact ⟨fun ⟨first, inBody, inRuns, inLater⟩ => ⟨⟨first, inRuns⟩, inBody, inLater⟩,
        fun ⟨⟨first, inRuns⟩, inBody, inLater⟩ => ⟨first, inBody, inRuns, inLater⟩⟩

theorem read_text_meaning (spelling : TemplateSpelling) :
    Template.read spelling.meaning.text = .ok spelling.meaning := by
  rw [read_of_text spelling.text_meaning.symm, spelling.meaning_canonical]

theorem text_meaning_eq_iff {written : String} {spelling : TemplateSpelling}
    (spelled : spelling.text = written.toList) :
    spelling.meaning.text = written ↔
      (∀ run ∈ spelling.runs,
        Allowed.unreservedAndReserved.encodeChars run.text = run.text) ∧
      ∀ length ∈ spelling.lengths, length.digits.head? ≠ some '0' := by
  rw [← spelling.canonical_eq_self_iff, ← String.toList_inj, spelling.text_meaning, ← spelled]
  exact ⟨text_injective, congrArg text⟩

end TemplateSpelling

namespace Template

/-- What was read is read again from its canonical text, so templates are told apart by
their canonical texts. A text is canonical exactly if each of its literal runs is encoded
already and none of its lengths starts with a zero. -/
theorem canonical_text_round_trip {written : String} {template : Template}
    (accepted : read written = .ok template) :
    read template.text = .ok template ∧
      (∀ (written' : String) (template' : Template), read written' = .ok template' →
        (template = template' ↔ template.text = template'.text)) ∧
      ∃ spelling : TemplateSpelling, spelling.text = written.toList ∧
        (template.text = written ↔
          (∀ run ∈ spelling.runs,
            Allowed.unreservedAndReserved.encodeChars run.text = run.text) ∧
          ∀ length ∈ spelling.lengths, length.digits.head? ≠ some '0') := by
  obtain ⟨spelling, spelled, rfl⟩ := TemplateSpelling.exists_of_read accepted
  refine ⟨spelling.read_text_meaning, ?_, spelling, spelled,
    TemplateSpelling.text_meaning_eq_iff spelled⟩
  intro written' template' accepted'
  refine ⟨congrArg text, fun same => ?_⟩
  obtain ⟨spelling', -, rfl⟩ := TemplateSpelling.exists_of_read accepted'
  have readAgain := spelling.read_text_meaning
  rw [same, spelling'.read_text_meaning] at readAgain
  exact (Except.ok.inj readAgain).symm

/-- A text with an unencoded blank and a length that starts with a zero. -/
theorem canonical_text_round_trip_blank :
    (read "a b\x7bx:03\x7d").map text = .ok "a%20b\x7bx:3\x7d" ∧
      read "a%20b\x7bx:3\x7d" = read "a b\x7bx:03\x7d" := by
  obtain ⟨template, accepted, canonical⟩ : ∃ template : Template,
      read "a b\x7bx:03\x7d" = .ok template ∧ template.text = "a%20b\x7bx:3\x7d" :=
    ⟨⟨[.literal "a%20b", .expression ⟨.simple, [⟨"x", .upTo 3 (by decide) (by decide)⟩],
      List.cons_ne_nil _ _⟩]⟩, by decide +kernel, by decide +kernel⟩
  have readAgain := (canonical_text_round_trip accepted).1
  rw [canonical] at readAgain
  rw [accepted, readAgain]
  exact ⟨congrArg Except.ok canonical, rfl⟩

end Template

end UriExpansion
