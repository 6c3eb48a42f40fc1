import UriExpansion.Template.Reading
import Mathlib.Data.List.Basic

/-!
How a template text is cut and read, one expression at a time. Every text is a run
without an opening brace, alone or in front of an expression, and an expression goes as
far as the next closing brace. Reading follows these three cases, so whatever holds of
reading is shown by induction on `Cut`.
-/

namespace UriExpansion.Template

/-- The brace that ends a run, or an expression. -/
def delimiter (inside : Bool) : Char :=
  if inside then '\x7d' else '\x7b'

/-- What is in front of the next delimiter is passed over. -/
theorem cutFrom_append (inside : Bool) (passed : List Char) {part : List Char}
    (absent : delimiter inside ∉ part) (rest : List Char) :
    cutFrom inside passed (part ++ rest) = cutFrom inside (part.reverse ++ passed) rest := by
  induction part generalizing passed with
  | nil => rfl
  | cons c part inductionHypothesis =>
      have different : c ≠ delimiter inside := fun equality =>
        absent (equality ▸ List.mem_cons_self)
      have step : cutFrom inside passed (c :: (part ++ rest)) =
          cutFrom inside (c :: passed) (part ++ rest) := by
        cases inside with
        | false => exact if_neg different
        | true => exact if_neg different
      rw [List.cons_append, step, inductionHypothesis _ fun membership =>
        absent (List.mem_cons_of_mem _ membership)]
      simp

theorem pieces_run {run : List Char} (noOpening : '\x7b' ∉ run) :
    pieces run = Piece.ofRun run.reverse := by
  have cut := cutFrom_append false [] noOpening []
  rwa [List.append_nil, List.append_nil] at cut

theorem pieces_opening {run : List Char} (noOpening : '\x7b' ∉ run) (rest : List Char) :
    pieces (run ++ '\x7b' :: rest) = Piece.ofRun run.reverse ++ cutFrom true [] rest := by
  have cut := cutFrom_append false [] noOpening ('\x7b' :: rest)
  rwa [List.append_nil] at cut

theorem pieces_unclosed {run body : List Char} (noOpening : '\x7b' ∉ run)
    (noClosing : '\x7d' ∉ body) :
    pieces (run ++ '\x7b' :: body) = Piece.ofRun run.reverse ++ [.unclosed body] := by
  have cut := cutFrom_append true [] noClosing []
  rw [List.append_nil, List.append_nil] at cut
  rw [pieces_opening noOpening, cut, cutFrom, if_pos rfl, List.reverse_reverse]

theorem pieces_braced {run body : List Char} (noOpening : '\x7b' ∉ run)
    (noClosing : '\x7d' ∉ body) (later : List Char) :
    pieces (run ++ '\x7b' :: (body ++ '\x7d' :: later)) =
      Piece.ofRun run.reverse ++ .braced body :: pieces later := by
  rw [pieces_opening noOpening, cutFrom_append true [] noClosing, List.append_nil, cutFrom,
    if_pos rfl, if_pos rfl, List.reverse_reverse]
  rfl

/-- The elements that a run of literal text gives. -/
def literals (run : List Char) : List Element :=
  if run.isEmpty then []
  else [.literal (String.ofList (Allowed.unreservedAndReserved.encodeChars run))]

/-- Read a text that stands behind `position` bytes. -/
def readFrom (position : Nat) (text : List Char) : Except TemplateError (List Element) :=
  readPieces position (pieces text)

theorem read_eq_map_readFrom (text : String) :
    read text = (readFrom 0 text.toList).map Template.mk := by
  unfold read readFrom
  cases readPieces 0 (pieces text.toList) <;> rfl

theorem readPieces_ofRun_append (position : Nat) (run : List Char) (rest : List Piece) :
    readPieces position (Piece.ofRun run.reverse ++ rest) =
      (readPieces (position + Text.Utf8.size run) rest).map (literals run ++ ·) := by
  cases run with
  | nil =>
      have unchanged : readPieces position rest =
          (readPieces position rest).map fun elements => elements := by
        cases readPieces position rest <;> rfl
      exact unchanged
  | cons c run =>
      have single : Piece.ofRun (c :: run).reverse = [.literal (c :: run)] := by
        simp [Piece.ofRun]
      rw [single, List.singleton_append, readPieces]
      cases readPieces (position + Text.Utf8.size (c :: run)) rest <;> rfl

theorem readFrom_run (position : Nat) {run : List Char} (noOpening : '\x7b' ∉ run) :
    readFrom position run = .ok (literals run) := by
  have read := readPieces_ofRun_append position run []
  rw [List.append_nil] at read
  rw [readFrom, pieces_run noOpening, read]
  exact congrArg Except.ok (List.append_nil _)

theorem readFrom_unclosed (position : Nat) {run body : List Char} (noOpening : '\x7b' ∉ run)
    (noClosing : '\x7d' ∉ body) :
    readFrom position (run ++ '\x7b' :: body) =
      .error ⟨position + Text.Utf8.size run, String.ofList ('\x7b' :: body), .unterminated⟩ := by
  rw [readFrom, pieces_unclosed noOpening noClosing, readPieces_ofRun_append]
  rfl

theorem readFrom_braced (position : Nat) {run body : List Char} (noOpening : '\x7b' ∉ run)
    (noClosing : '\x7d' ∉ body) (later : List Char) :
    readFrom position (run ++ '\x7b' :: (body ++ '\x7d' :: later)) =
      match Expression.read body with
      | .error reason =>
          .error ⟨position + Text.Utf8.size run,
            String.ofList ('\x7b' :: body ++ ['\x7d']), reason⟩
      | .ok expression =>
          (readFrom (position + Text.Utf8.size run + Text.Utf8.size body + 2) later).map
            (literals run ++ .expression expression :: ·) := by
  rw [readFrom, pieces_braced noOpening noClosing, readPieces_ofRun_append, readPieces]
  cases Expression.read body with
  | error reason => rfl
  | ok expression =>
      simp only [readFrom]
      cases readPieces (position + Text.Utf8.size run + Text.Utf8.size body + 2)
        (pieces later) <;> rfl

/-- The ways in which a text may be cut. -/
inductive Cut : List Char → Prop
  | run {run : List Char} (noOpening : '\x7b' ∉ run) : Cut run
  | unclosed {run body : List Char} (noOpening : '\x7b' ∉ run) (noClosing : '\x7d' ∉ body) :
      Cut (run ++ '\x7b' :: body)
  | braced {run body later : List Char} (noOpening : '\x7b' ∉ run)
      (noClosing : '\x7d' ∉ body) (further : Cut later) :
      Cut (run ++ '\x7b' :: (body ++ '\x7d' :: later))

theorem Cut.of (text : List Char) : Cut text := by
  by_cases opened : '\x7b' ∈ text
  · obtain ⟨run, rest, equality, noOpening⟩ := List.eq_append_cons_of_mem opened
    rw [equality]
    by_cases closed : '\x7d' ∈ rest
    · obtain ⟨body, later, restEquality, noClosing⟩ := List.eq_append_cons_of_mem closed
      rw [restEquality]
      exact .braced noOpening noClosing (Cut.of later)
    · exact .unclosed noOpening closed
  · exact .run opened
termination_by text.length
decreasing_by
  rw [equality, restEquality]
  simp only [List.length_append, List.length_cons]
  omega

end UriExpansion.Template
