import UriExpansion.Proofs.Template.Cutting
import UriExpansion.Proofs.Template.Spelling

/-!
The grammar of template texts, `r₀ {b₁} r₁ … {bₙ} rₙ`. A spelling of a text takes it
apart into literal runs without an opening brace and spelled expressions. Exactly the
texts that have a spelling are read, none has two, and what is read is its meaning.
-/

namespace UriExpansion

/-- Literal text, which may be empty. -/
@[ext]
structure LiteralRun where
  text : List Char
  noOpening : '\x7b' ∉ text

/-- The literal that a run gives, or none if it is empty. -/
def LiteralRun.elements (run : LiteralRun) : List Element :=
  Template.literals run.text

/-- A template as it is written. -/
inductive TemplateSpelling where
  | last (run : LiteralRun)
  | braced (run : LiteralRun) (body : ExpressionSpelling) (later : TemplateSpelling)

namespace TemplateSpelling

def text : TemplateSpelling → List Char
  | last run => run.text
  | braced run body later => run.text ++ '\x7b' :: (body.text ++ '\x7d' :: later.text)

def elements : TemplateSpelling → List Element
  | last run => run.elements
  | braced run body later => run.elements ++ .expression body.meaning :: later.elements

def meaning (spelling : TemplateSpelling) : Template :=
  ⟨spelling.elements⟩

def bodies : TemplateSpelling → List ExpressionSpelling
  | last _ => []
  | braced _ body later => body :: later.bodies

theorem readFrom_text (position : Nat) (spelling : TemplateSpelling) :
    Template.readFrom position spelling.text = .ok spelling.elements := by
  induction spelling generalizing position with
  | last run => exact Template.readFrom_run position run.noOpening
  | braced run body later inductionHypothesis =>
      rw [text, Template.readFrom_braced position run.noOpening body.not_mem_text, body.read_text]
      simp only [inductionHypothesis]
      rfl

theorem exists_of_readFrom {position : Nat} {written : List Char} {found : List Element}
    (accepted : Template.readFrom position written = .ok found) :
    ∃ spelling : TemplateSpelling, spelling.text = written := by
  induction Template.Cut.of written generalizing position found with
  | run noOpening => exact ⟨.last ⟨_, noOpening⟩, rfl⟩
  | unclosed noOpening noClosing =>
      rw [Template.readFrom_unclosed position noOpening noClosing] at accepted
      cases accepted
  | @braced run body later noOpening noClosing _ inductionHypothesis =>
      rw [Template.readFrom_braced position noOpening noClosing] at accepted
      cases bodyRead : Expression.read body with
      | error reason =>
          rw [bodyRead] at accepted
          cases accepted
      | ok expression =>
          rw [bodyRead] at accepted
          cases laterRead : Template.readFrom
              (position + Text.Utf8.size run + Text.Utf8.size body + 2) later with
          | error error =>
              simp only [laterRead] at accepted
              cases accepted
          | ok elements =>
              obtain ⟨spelled, rfl, -⟩ := ExpressionSpelling.exists_of_read bodyRead
              obtain ⟨further, rfl⟩ := inductionHypothesis laterRead
              exact ⟨.braced ⟨run, noOpening⟩ spelled further, rfl⟩

theorem text_injective {left right : TemplateSpelling} (same : left.text = right.text) :
    left = right := by
  induction left generalizing right with
  | last run =>
      cases right with
      | last run' => exact congrArg last (LiteralRun.ext same)
      | braced run' body' later' =>
          refine absurd ?_ run.noOpening
          rw [show run.text = _ from same]
          exact List.mem_append_right _ List.mem_cons_self
  | braced run body later inductionHypothesis =>
      cases right with
      | last run' =>
          refine absurd ?_ run'.noOpening
          rw [show run'.text = _ from same.symm]
          exact List.mem_append_right _ List.mem_cons_self
      | braced run' body' later' =>
          obtain ⟨runs, rests⟩ :=
            Text.append_cons_injective run.noOpening run'.noOpening same
          obtain ⟨bodies, laters⟩ :=
            Text.append_cons_injective body.not_mem_text body'.not_mem_text rests
          rw [LiteralRun.ext runs, ExpressionSpelling.text_injective bodies,
            inductionHypothesis laters]

theorem read_of_text {written : String} {spelling : TemplateSpelling}
    (spelled : spelling.text = written.toList) :
    Template.read written = .ok spelling.meaning := by
  rw [Template.read_eq_map_readFrom, ← spelled, spelling.readFrom_text]
  rfl

theorem exists_of_read {written : String} {template : Template}
    (accepted : Template.read written = .ok template) :
    ∃ spelling : TemplateSpelling,
      spelling.text = written.toList ∧ spelling.meaning = template := by
  rw [Template.read_eq_map_readFrom] at accepted
  cases elementsRead : Template.readFrom 0 written.toList with
  | error error =>
      rw [elementsRead] at accepted
      cases accepted
  | ok elements =>
      obtain ⟨spelling, spelled⟩ := exists_of_readFrom elementsRead
      have meant := read_of_text spelled
      rw [Template.read_eq_map_readFrom, accepted] at meant
      exact ⟨spelling, spelled, (Except.ok.inj meant).symm⟩

end TemplateSpelling

/-- Exactly the texts that have a spelling are read, no text has two, and a text is read as
its spelling means it. -/
theorem Template.read_iff_spelled (written : String) :
    ((∃ template, read written = .ok template) ↔
      ∃! spelling : TemplateSpelling, spelling.text = written.toList) ∧
    ∀ spelling : TemplateSpelling, spelling.text = written.toList →
      (∀ body ∈ spelling.bodies, '\x7d' ∉ body.text) ∧
        read written = .ok spelling.meaning := by
  refine ⟨⟨?_, ?_⟩, ?_⟩
  · rintro ⟨template, accepted⟩
    obtain ⟨spelling, spelled, -⟩ := TemplateSpelling.exists_of_read accepted
    refine ⟨spelling, spelled, fun other otherSpelled => ?_⟩
    exact TemplateSpelling.text_injective (otherSpelled.trans spelled.symm)
  · rintro ⟨spelling, spelled, -⟩
    exact ⟨spelling.meaning, TemplateSpelling.read_of_text spelled⟩
  · intro spelling spelled
    exact ⟨fun body _ => body.not_mem_text, TemplateSpelling.read_of_text spelled⟩

end UriExpansion
