import UriExpansion.Proofs.Template.Expansion
import UriExpansion.Proofs.Template.Grammar

/-!
Templates put one behind the other. Where an expression stands on one side of the seam, no
literal runs across it, so each side is read as it is read alone: the elements are
concatenated, the expansions are, and an error of the second text is moved by the bytes
of the first.

At any other seam two runs of literal text become one, and characters that stand at its
ends may then be composed or belong to one escape.
-/

namespace UriExpansion

/-- The same error behind further bytes. -/
def TemplateError.behind (bytes : Nat) (error : TemplateError) : TemplateError :=
  { error with position := bytes + error.position }

namespace Template

/-- Positions are only counted on, and decide nothing. -/
theorem readPieces_add (bytes position : Nat) (pieces : List Piece) :
    readPieces (bytes + position) pieces =
      (readPieces position pieces).mapError (TemplateError.behind bytes) := by
  induction pieces generalizing position with
  | nil => rfl
  | cons piece rest inductionHypothesis =>
      cases piece with
      | literal text =>
          rw [readPieces, readPieces, Nat.add_assoc, inductionHypothesis]
          cases readPieces (position + Text.Utf8.size text) rest <;> rfl
      | braced body =>
          rw [readPieces, readPieces]
          cases Expression.read body with
          | error reason => rfl
          | ok expression =>
              simp only [Nat.add_assoc, inductionHypothesis]
              cases readPieces (position + (Text.Utf8.size body + 2)) rest <;> rfl
      | unclosed body => rfl

theorem readFrom_eq_mapError (bytes : Nat) (text : List Char) :
    readFrom bytes text = (readFrom 0 text).mapError (TemplateError.behind bytes) :=
  readPieces_add bytes 0 (pieces text)

/-- Whether the literal text of `run` ends where `later` begins. -/
def EndsAt (run later : List Char) : Prop :=
  run = [] ∨ later = [] ∨ ∃ rest, later = '\x7b' :: rest

theorem pieces_append {run later : List Char} (noOpening : '\x7b' ∉ run)
    (ends : EndsAt run later) :
    pieces (run ++ later) = Piece.ofRun run.reverse ++ pieces later := by
  rcases ends with rfl | rfl | ⟨rest, rfl⟩
  · rfl
  · rw [List.append_nil, pieces_run noOpening]
    exact (List.append_nil _).symm
  · have opened := pieces_opening List.not_mem_nil rest
    rw [List.nil_append] at opened
    rw [pieces_opening noOpening, opened]
    rfl

theorem readFrom_run_append (position : Nat) {run later : List Char} (noOpening : '\x7b' ∉ run)
    (ends : EndsAt run later) :
    readFrom position (run ++ later) =
      (readFrom (position + Text.Utf8.size run) later).map (literals run ++ ·) := by
  rw [readFrom, pieces_append noOpening ends, readPieces_ofRun_append]
  rfl

end Template

namespace TemplateSpelling

/-- The literal run behind all expressions. -/
def lastRun : TemplateSpelling → LiteralRun
  | last run => run
  | braced _ _ later => later.lastRun

theorem exists_literal_of_lastRun_ne_nil {spelling : TemplateSpelling}
    (nonempty : spelling.lastRun.text ≠ []) :
    ∃ earlier text, spelling.elements = earlier ++ [.literal text] := by
  induction spelling with
  | last run =>
      have written : ¬ run.text.isEmpty = true := mt List.isEmpty_iff.mp nonempty
      refine ⟨[], String.ofList (Allowed.unreservedAndReserved.encodeChars run.text), ?_⟩
      rw [elements, LiteralRun.elements, Template.literals, if_neg written, List.nil_append]
  | braced run body later inductionHypothesis =>
      obtain ⟨earlier, text, equality⟩ := inductionHypothesis nonempty
      refine ⟨run.elements ++ .expression body.meaning :: earlier, text, ?_⟩
      simp [elements, equality]

/-- A template that holds nothing or ends in an expression is spelled without literal text
at the end. -/
theorem lastRun_eq_nil {spelling : TemplateSpelling}
    (noLiteral : spelling.elements = [] ∨
      ∃ body, spelling.elements.getLast? = some (.expression body)) :
    spelling.lastRun.text = [] := by
  by_contra nonempty
  obtain ⟨earlier, text, equality⟩ := exists_literal_of_lastRun_ne_nil nonempty
  rcases noLiteral with empty | ⟨body, found⟩
  · rw [equality] at empty
    exact List.append_ne_nil_of_right_ne_nil _ (List.cons_ne_nil _ _) empty
  · rw [equality, List.getLast?_concat] at found
    cases found

theorem size_text_braced (run : LiteralRun) (body : ExpressionSpelling)
    (later : TemplateSpelling) :
    Text.Utf8.size (braced run body later).text =
      Text.Utf8.size run.text + Text.Utf8.size body.text + 2 + Text.Utf8.size later.text := by
  have braceSizes : Char.utf8Size '\x7b' = 1 ∧ Char.utf8Size '\x7d' = 1 := by decide
  simp only [text, Text.Utf8.size_append, Text.Utf8.size_cons, braceSizes]
  omega

/-- Reading goes through a spelled text and comes to what stands behind it. -/
theorem readFrom_text_append (position : Nat) (spelling : TemplateSpelling) {later : List Char}
    (ends : Template.EndsAt spelling.lastRun.text later) :
    Template.readFrom position (spelling.text ++ later) =
      (Template.readFrom (position + Text.Utf8.size spelling.text) later).map
        (spelling.elements ++ ·) := by
  induction spelling generalizing position with
  | last run => exact Template.readFrom_run_append position run.noOpening ends
  | braced run body further inductionHypothesis =>
      have bytes : position + Text.Utf8.size (braced run body further).text =
          position + Text.Utf8.size run.text + Text.Utf8.size body.text + 2 +
            Text.Utf8.size further.text := by
        rw [size_text_braced]
        omega
      have written : (braced run body further).text ++ later =
          run.text ++ '\x7b' :: (body.text ++ '\x7d' :: (further.text ++ later)) := by
        simp [text]
      rw [written, Template.readFrom_braced position run.noOpening body.not_mem_text,
        body.read_text, bytes]
      simp only [inductionHypothesis _ ends]
      cases Template.readFrom (position + Text.Utf8.size run.text + Text.Utf8.size body.text + 2 +
          Text.Utf8.size further.text) later with
      | error error => rfl
      | ok found => simp [Except.map, elements, LiteralRun.elements]

end TemplateSpelling

namespace Template

theorem expand_append (front back : List Element) (values : Variables) :
    expand ⟨front ++ back⟩ values = expand ⟨front⟩ values ++ expand ⟨back⟩ values := by
  simp only [expand_eq_join, List.map_append, String.join_append]

theorem read_append_eq {first second : String} {front : Template}
    (accepted : read first = .ok front)
    (seam : second = "" ∨ second.toList.head? = some '\x7b' ∨ front.elements = [] ∨
      ∃ body, front.elements.getLast? = some (.expression body)) :
    read (first ++ second) =
      ((read second).mapError (TemplateError.behind first.utf8ByteSize)).map
        fun back => ⟨front.elements ++ back.elements⟩ := by
  obtain ⟨spelling, spelled, rfl⟩ := TemplateSpelling.exists_of_read accepted
  have ends : EndsAt spelling.lastRun.text second.toList := by
    rcases seam with rfl | opened | noLiteral
    · exact .inr (.inl rfl)
    · obtain ⟨rest, equality⟩ := List.head?_eq_some_iff.mp opened
      exact .inr (.inr ⟨rest, equality⟩)
    · exact .inl (TemplateSpelling.lastRun_eq_nil noLiteral)
  rw [read_eq_map_readFrom, read_eq_map_readFrom, String.toList_append, ← spelled,
    spelling.readFrom_text_append 0 ends, readFrom_eq_mapError, spelled, Nat.zero_add,
    Text.Utf8.size_toList]
  cases readFrom 0 second.toList <;> rfl

/-- Reading and expansion respect concatenation where no literal runs across the seam. -/
theorem read_append {first second : String} {front : Template}
    (accepted : read first = .ok front)
    (seam : second = "" ∨ second.toList.head? = some '\x7b' ∨ front.elements = [] ∨
      ∃ body, front.elements.getLast? = some (.expression body)) :
    (∀ back, read second = .ok back →
      ∃ whole, read (first ++ second) = .ok whole ∧
        whole.elements = front.elements ++ back.elements ∧
        ∀ values, whole.expand values = front.expand values ++ back.expand values) ∧
    ∀ position text reason, read second = .error ⟨position, text, reason⟩ →
      read (first ++ second) = .error ⟨first.utf8ByteSize + position, text, reason⟩ := by
  have joined := read_append_eq accepted seam
  constructor
  · intro back backRead
    rw [backRead] at joined
    exact ⟨_, joined, rfl, expand_append front.elements back.elements⟩
  · intro position text reason refused
    rw [refused] at joined
    exact joined

/-- A text that ends in an expression, in front of a literal and of a broken expression. -/
theorem read_append_query :
    (read ("é\x7b?x\x7d" ++ "/a\x7by\x7d")).map Template.elements =
        .ok [.literal "%C3%A9", .expression ⟨.query, [⟨"x", .plain⟩], List.cons_ne_nil _ _⟩,
          .literal "/a", .expression ⟨.simple, [⟨"y", .plain⟩], List.cons_ne_nil _ _⟩] ∧
      read ("é\x7b?x\x7d" ++ "/a\x7by:0\x7d") =
        .error ⟨8, "\x7by:0\x7d", .lengthOutOfRange⟩ := by
  have accepted : read "é\x7b?x\x7d" = .ok ⟨[.literal "%C3%A9",
      .expression ⟨.query, [⟨"x", .plain⟩], List.cons_ne_nil _ _⟩]⟩ := by decide +kernel
  have back : read "/a\x7by\x7d" = .ok ⟨[.literal "/a",
      .expression ⟨.simple, [⟨"y", .plain⟩], List.cons_ne_nil _ _⟩]⟩ := by decide +kernel
  have refused : read "/a\x7by:0\x7d" = .error ⟨2, "\x7by:0\x7d", .lengthOutOfRange⟩ := by
    decide +kernel
  have ended : ∃ body, List.getLast? [Element.literal "%C3%A9",
      .expression ⟨.query, [⟨"x", .plain⟩], List.cons_ne_nil _ _⟩] =
        some (.expression body) := ⟨_, rfl⟩
  constructor
  · obtain ⟨whole, wholeRead, elements, -⟩ :=
      (read_append accepted (.inr (.inr (.inr ended)))).1 _ back
    rw [wholeRead]
    exact congrArg Except.ok elements
  · exact (read_append accepted (.inr (.inr (.inr ended)))).2 _ _ _ refused

/-- Across a seam of literals two texts become one escape. -/
example : (read "%4").map text = .ok "%254" ∧ (read ("%4" ++ "1")).map text = .ok "%41" := by
  decide +kernel

end Template

end UriExpansion
