import UriExpansion.Template.Name
import UriExpansion.Proofs.Percent.Encoding

/-!
The grammar of variable names, and that `isValid` decides it. Names need no encoding,
and none of their characters ends a name or selects an operator.
-/

namespace UriExpansion.VariableName

/-- `varchar = ALPHA / DIGIT / "_" / pct-encoded` -/
inductive IsVarchar : List Char → Prop
  | plain {c : Char} : c.isAlphanum = true ∨ c = '_' → IsVarchar [c]
  | escape {high low : Char} :
      Text.isHexDigit high = true → Text.isHexDigit low = true → IsVarchar ['%', high, low]

/-- `varchar *( ["."] varchar )` -/
inductive IsName : List Char → Prop
  | last {first : List Char} : IsVarchar first → IsName first
  | next {first rest : List Char} : IsVarchar first → IsName rest → IsName (first ++ rest)
  | dotted {first rest : List Char} :
      IsVarchar first → IsName rest → IsName (first ++ '.' :: rest)

/-- What may stand behind a `varchar`. -/
def IsTail (text : List Char) : Prop :=
  text = [] ∨ IsName text ∨ ∃ rest, text = '.' :: rest ∧ IsName rest

theorem isPlain_eq_true_iff {c : Char} :
    isPlain c = true ↔ c.isAlphanum = true ∨ c = '_' := by
  simp [isPlain]

theorem IsVarchar.isName_append {first text : List Char} (varchar : IsVarchar first)
    (tail : IsTail text) : IsName (first ++ text) := by
  rcases tail with rfl | name | ⟨rest, rfl, name⟩
  · rw [List.append_nil]
    exact .last varchar
  · exact .next varchar name
  · exact .dotted varchar name

/-- A `varchar` leads to the state in which a name may end. -/
theorem IsVarchar.continues_append {first : List Char} (varchar : IsVarchar first)
    (expecting : Bool) (rest : List Char) :
    continues expecting (first ++ rest) = continues false rest := by
  cases varchar with
  | plain alphanumeric =>
      rw [List.singleton_append, continues.eq_def]
      exact if_pos (isPlain_eq_true_iff.mpr alphanumeric)
  | escape high low =>
      simp only [List.cons_append, List.nil_append]
      rw [continues, if_neg (by decide), if_neg (by decide), if_pos rfl]
      simp [high, low]

theorem continues_dot (expecting : Bool) (rest : List Char) :
    continues expecting ('.' :: rest) = (!expecting && continues true rest) := by
  rw [continues.eq_def]
  rfl

theorem continues_sound {expecting : Bool} {text : List Char}
    (accepted : continues expecting text = true) :
    IsName text ∨ expecting = false ∧ IsTail text := by
  fun_induction continues expecting text with
  | case1 expecting => exact .inr ⟨by simpa using accepted, .inl rfl⟩
  | case2 expecting c rest plain inductionHypothesis =>
      have varchar := IsVarchar.plain (isPlain_eq_true_iff.mp plain)
      rcases inductionHypothesis accepted with name | ⟨-, tail⟩
      · exact .inl (varchar.isName_append (.inr (.inl name)))
      · exact .inl (varchar.isName_append tail)
  | case3 expecting rest notPlain inductionHypothesis =>
      obtain ⟨mayEnd, further⟩ := Bool.and_eq_true_iff.mp accepted
      rcases inductionHypothesis further with name | ⟨impossible, -⟩
      · exact .inr ⟨by simpa using mayEnd, .inr (.inr ⟨rest, rfl, name⟩)⟩
      · cases impossible
  | case4 expecting high low later _ _ inductionHypothesis =>
      simp only [Bool.and_eq_true] at accepted
      have varchar := IsVarchar.escape accepted.1.1 accepted.1.2
      rcases inductionHypothesis accepted.2 with name | ⟨-, tail⟩
      · exact .inl (varchar.isName_append (.inr (.inl name)))
      · exact .inl (varchar.isName_append tail)
  | case5 => cases accepted
  | case6 => cases accepted

theorem IsName.continues {name : List Char} (isName : IsName name) (expecting : Bool) :
    VariableName.continues expecting name = true := by
  induction isName generalizing expecting with
  | last varchar =>
      have step := varchar.continues_append expecting []
      rwa [List.append_nil] at step
  | next varchar _ inductionHypothesis =>
      rw [varchar.continues_append]
      exact inductionHypothesis false
  | dotted varchar _ inductionHypothesis =>
      rw [varchar.continues_append, continues_dot]
      exact inductionHypothesis true

theorem isValid_iff_isName {name : List Char} : isValid name = true ↔ IsName name := by
  constructor
  · intro valid
    rcases continues_sound valid with isName | ⟨impossible, -⟩
    · exact isName
    · cases impossible
  · intro isName
    exact isName.continues true

theorem IsVarchar.exists_cons {first : List Char} (varchar : IsVarchar first) :
    ∃ c rest, first = c :: rest ∧ (isPlain c = true ∨ c = '%') := by
  cases varchar with
  | plain alphanumeric => exact ⟨_, _, rfl, .inl (isPlain_eq_true_iff.mpr alphanumeric)⟩
  | escape high low => exact ⟨_, _, rfl, .inr rfl⟩

theorem IsName.exists_cons {name : List Char} (isName : IsName name) :
    ∃ c rest, name = c :: rest ∧ (isPlain c = true ∨ c = '%') := by
  cases isName with
  | last varchar => exact varchar.exists_cons
  | next varchar | dotted varchar =>
      obtain ⟨c, rest, rfl, start⟩ := varchar.exists_cons
      exact ⟨c, _, rfl, start⟩

theorem ascii_of_isPlain {c : Char} (plain : isPlain c = true) : c.toNat < 0x80 := by
  rcases isPlain_eq_true_iff.mp plain with alphanumeric | rfl
  · rcases Bool.or_eq_true_iff.mp alphanumeric with letter | digit
    · rcases Bool.or_eq_true_iff.mp letter with upper | lower
      · exact Nat.lt_of_le_of_lt (of_decide_eq_true upper).2 (by decide)
      · have last := of_decide_eq_true (Bool.and_eq_true_iff.mp lower).2
        exact Nat.lt_of_le_of_lt last (by decide)
    · exact Nat.lt_of_le_of_lt (Char.isDigit_iff_toNat.mp digit).2 (by decide)
  · decide

theorem ascii_of_isHexDigit {c : Char} (digit : Text.isHexDigit c = true) :
    c.toNat < 0x80 := by
  simp [Text.isHexDigit, Char.isDigit, Char.le_def, UInt32.le_iff_toNat_le] at digit
  omega

theorem isPlain_of_isHexDigit {c : Char} (digit : Text.isHexDigit c = true) :
    isPlain c = true :=
  Text.Utf8.forall_ascii (motive := fun c => Text.isHexDigit c = true → isPlain c = true)
    (by decide) (ascii_of_isHexDigit digit) digit

theorem contains_of_isPlain (allowed : Allowed) {c : Char} (plain : isPlain c = true) :
    allowed.contains c.toUInt8 = true :=
  Text.Utf8.forall_ascii
    (motive := fun c => isPlain c = true → allowed.contains c.toUInt8 = true)
    (by cases allowed <;> decide +kernel) (ascii_of_isPlain plain) plain

theorem IsVarchar.isNameChar {first : List Char} (varchar : IsVarchar first) :
    ∀ c ∈ first, isNameChar c = true := by
  intro c membership
  cases varchar with
  | plain alphanumeric =>
      rw [List.mem_singleton.mp membership]
      simp [VariableName.isNameChar, isPlain_eq_true_iff.mpr alphanumeric]
  | escape high low =>
      simp only [List.mem_cons, List.not_mem_nil, or_false] at membership
      rcases membership with rfl | rfl | rfl
      · decide
      · simp [VariableName.isNameChar, isPlain_of_isHexDigit high]
      · simp [VariableName.isNameChar, isPlain_of_isHexDigit low]

theorem IsName.isNameChar {name : List Char} (isName : IsName name) :
    ∀ c ∈ name, isNameChar c = true := by
  induction isName with
  | last varchar => exact varchar.isNameChar
  | next varchar _ inductionHypothesis =>
      intro c membership
      rcases List.mem_append.mp membership with inFirst | inRest
      · exact varchar.isNameChar c inFirst
      · exact inductionHypothesis c inRest
  | dotted varchar _ inductionHypothesis =>
      intro c membership
      rcases List.mem_append.mp membership with inFirst | inRest
      · exact varchar.isNameChar c inFirst
      · rcases List.mem_cons.mp inRest with rfl | inName
        · decide
        · exact inductionHypothesis c inName

theorem IsName.not_mem {name : List Char} (isName : IsName name) {c : Char}
    (notNameChar : VariableName.isNameChar c = false) : c ∉ name := by
  intro membership
  rw [isName.isNameChar c membership] at notNameChar
  cases notNameChar

theorem IsVarchar.isFinished {first : List Char} (varchar : IsVarchar first) :
    Percent.IsFinished first := by
  cases varchar with
  | plain alphanumeric =>
      have plain := isPlain_eq_true_iff.mpr alphanumeric
      exact Percent.isFinished_cons (ascii_of_isPlain plain)
        (.inl (contains_of_isPlain _ plain)) Percent.isFinished_nil
  | @escape high low highDigit lowDigit =>
      have highPlain := isPlain_of_isHexDigit highDigit
      have lowPlain := isPlain_of_isHexDigit lowDigit
      have highAscii := ascii_of_isPlain highPlain
      have lowAscii := ascii_of_isPlain lowPlain
      have digits : Percent.startsWithHexPair (Text.Utf8.encode [high, low]) = true := by
        rw [Text.Utf8.encode_cons_of_ascii highAscii, Text.Utf8.encode_cons_of_ascii lowAscii]
        simp [Percent.startsWithHexPair, Percent.isHexDigit,
          Text.Utf8.ofUInt8_toUInt8 highAscii, Text.Utf8.ofUInt8_toUInt8 lowAscii,
          highDigit, lowDigit]
      refine Percent.isFinished_cons (by decide) (.inr ⟨rfl, digits⟩) ?_
      exact Percent.isFinished_cons highAscii (.inl (contains_of_isPlain _ highPlain))
        (Percent.isFinished_cons lowAscii (.inl (contains_of_isPlain _ lowPlain))
          Percent.isFinished_nil)

/-- A name may be written into a URI as it is. -/
theorem IsName.isFinished {name : List Char} (isName : IsName name) :
    Percent.IsFinished name := by
  induction isName with
  | last varchar => exact varchar.isFinished
  | next varchar _ inductionHypothesis =>
      exact Percent.isFinished_append varchar.isFinished inductionHypothesis
  | dotted varchar _ inductionHypothesis =>
      refine Percent.isFinished_append varchar.isFinished ?_
      exact Percent.isFinished_cons (by decide) (.inl (by decide)) inductionHypothesis

end UriExpansion.VariableName
