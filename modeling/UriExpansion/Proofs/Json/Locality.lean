import UriExpansion.Json.Reading
import Mathlib.Data.List.Basic

/-!
What is read from the front of a text does not depend on what stands behind it. A value
that is read without a fault is read in the same way in front of further text, unless the
value is a number that goes on there, and in any greater number of rounds.
-/

namespace UriExpansion.Json

/-- The same reading in front of further text. -/
def Reading.before {α : Type} (reading : Reading α) (more : List Char) : Reading α :=
  { reading with rest := reading.rest ++ more }

/-- A text with which no number goes on. -/
def EndsNumber (more : List Char) : Prop :=
  ∀ c, more.head? = some c → c.isDigit = false ∧ c ≠ '.' ∧ c ≠ 'e' ∧ c ≠ 'E'

theorem span_append_of_stop {p : Char → Bool} {more : List Char}
    (stop : ∀ c, more.head? = some c → p c = false) (text : List Char) :
    (text ++ more).takeWhile p = text.takeWhile p ∧
      (text ++ more).dropWhile p = text.dropWhile p ++ more := by
  induction text with
  | nil =>
      cases more with
      | nil => exact ⟨rfl, rfl⟩
      | cons c rest => simp [stop c rfl]
  | cons c rest inductionHypothesis =>
      obtain ⟨taken, dropped⟩ := inductionHypothesis
      by_cases passed : p c = true
      · simp [passed, taken, dropped]
      · simp [passed]

theorem skipBlanks_append {text : List Char} {c : Char} {rest : List Char}
    (found : skipBlanks text = c :: rest) (more : List Char) :
    skipBlanks (text ++ more) = c :: (rest ++ more) := by
  unfold skipBlanks at *
  rw [List.dropWhile_append, found]
  rfl

section Numbers

variable {text more : List Char}

theorem readDigits_append (ends : EndsNumber more)
    (complete : (readDigits text).fault? = none) :
    readDigits (text ++ more) = (readDigits text).before more := by
  obtain ⟨taken, dropped⟩ :=
    span_append_of_stop (p := Char.isDigit) (fun c head => (ends c head).1) text
  unfold readDigits at *
  rw [taken, dropped]
  cases digits : text.takeWhile Char.isDigit with
  | nil =>
      rw [digits] at complete
      cases rest : text.dropWhile Char.isDigit <;> rw [rest] at complete <;> cases complete
  | cons digit later => rfl

theorem readWhole_append (ends : EndsNumber more)
    (complete : (readWhole text).fault? = none) :
    readWhole (text ++ more) = (readWhole text).before more := by
  revert complete
  fun_cases readWhole text with
  | case1 rest tooMany => exact fun impossible => nomatch impossible
  | case2 rest alone =>
      intro
      rw [List.cons_append, readWhole, if_neg]
      · rfl
      · cases rest with
        | nil =>
            cases head : more.head? with
            | none => simp [head]
            | some c => simp [head, (ends c head).1]
        | cons c later => exact alone
  | case3 text notZero =>
      intro complete
      cases text with
      | nil => cases complete
      | cons c rest =>
          rw [List.cons_append, readWhole]
          · exact readDigits_append ends complete
          · rintro later equality
            exact notZero rest (by rw [(List.cons.inj equality).1])

theorem readFraction_append (ends : EndsNumber more)
    (complete : (readFraction text).fault? = none) :
    readFraction (text ++ more) = (readFraction text).before more := by
  revert complete
  fun_cases readFraction text with
  | case1 rest => exact readDigits_append ends
  | case2 text noPoint =>
      intro
      rw [readFraction]
      · rfl
      · intro later equality
        cases text with
        | nil =>
            rw [List.nil_append] at equality
            exact (ends '.' (by rw [equality]; rfl)).2.1 rfl
        | cons c rest => exact noPoint rest (by rw [(List.cons.inj equality).1])

/-- Whether an exponent is negative, and the text behind its sign. -/
def exponentSign : List Char → Bool × List Char
  | [] => (false, [])
  | c :: rest =>
      if c = '-' then (true, rest) else if c = '+' then (false, rest) else (false, c :: rest)

theorem readExponent_cons (mark : Char) (rest : List Char) :
    readExponent (mark :: rest) =
      if mark = 'e' ∨ mark = 'E' then
        let digits := readDigits (exponentSign rest).2
        ⟨Text.signedNumber (exponentSign rest).1 digits.value, digits.fault?, digits.rest⟩
      else ⟨0, none, mark :: rest⟩ := by
  cases rest with
  | nil => rfl
  | cons c later =>
      by_cases minus : c = '-'
      · subst minus
        rfl
      · by_cases plus : c = '+'
        · subst plus
          rfl
        · rw [readExponent.eq_def, exponentSign, if_neg minus, if_neg plus]
          simp [minus, plus]

theorem exponentSign_append {rest : List Char} (nonempty : rest ≠ []) (more : List Char) :
    exponentSign (rest ++ more) = ((exponentSign rest).1, (exponentSign rest).2 ++ more) := by
  obtain ⟨c, later, rfl⟩ := List.exists_cons_of_ne_nil nonempty
  rw [List.cons_append, exponentSign, exponentSign]
  split
  · rfl
  · split <;> rfl

theorem readExponent_append (ends : EndsNumber more)
    (complete : (readExponent text).fault? = none) :
    readExponent (text ++ more) = (readExponent text).before more := by
  cases text with
  | nil =>
      cases more with
      | nil => rfl
      | cons c rest =>
          obtain ⟨-, -, lower, upper⟩ := ends c rfl
          rw [List.nil_append, readExponent_cons, if_neg (not_or.mpr ⟨lower, upper⟩)]
          rfl
  | cons mark rest =>
      rw [List.cons_append]
      rw [readExponent_cons] at complete ⊢
      rw [readExponent_cons]
      by_cases isMark : mark = 'e' ∨ mark = 'E'
      · simp only [if_pos isMark] at complete ⊢
        have nonempty : rest ≠ [] := by
          rintro rfl
          cases complete
        rw [exponentSign_append nonempty, readDigits_append ends complete]
        rfl
      · rw [if_neg isMark, if_neg isMark]
        rfl

theorem readNumber_append (ends : EndsNumber more)
    (complete : (readNumber text).fault? = none) :
    readNumber (text ++ more) = (readNumber text).before more := by
  simp only [readNumber] at complete ⊢
  cases whole : (readWhole text).fault? with
  | some fault => simp [whole] at complete
  | none =>
      cases fraction : (readFraction (readWhole text).rest).fault? with
      | some fault => simp [whole, fraction] at complete
      | none =>
          cases exponent : (readExponent (readFraction (readWhole text).rest).rest).fault? with
          | some fault => simp [whole, fraction, exponent] at complete
          | none =>
              rw [readWhole_append ends whole]
              simp only [Reading.before]
              rw [readFraction_append ends fraction]
              simp only [Reading.before]
              rw [readExponent_append ends exponent]
              simp only [Reading.before, whole, fraction, exponent, Option.none_or]

end Numbers

theorem readLetters_append {value : Json} {letters text : List Char}
    (complete : (readLetters value letters text).fault? = none) (more : List Char) :
    readLetters value letters (text ++ more) = (readLetters value letters text).before more := by
  fun_induction readLetters value letters text with
  | case1 text => cases text <;> rfl
  | case2 => cases complete
  | case3 letter letters rest inductionHypothesis =>
      rw [List.cons_append, readLetters, if_pos rfl]
      exact inductionHypothesis complete
  | case4 => cases complete

namespace StringReader

theorem finish_append (reader : StringReader) (rest more : List Char) :
    reader.finish (rest ++ more) = (reader.finish rest).before more := by
  simp only [finish]
  cases reader.settle.flaw? <;> rfl

end StringReader

theorem readStringFrom_append {reader : StringReader} {text : List Char}
    (complete : (readStringFrom reader text).fault? = none) (more : List Char) :
    readStringFrom reader (text ++ more) = (readStringFrom reader text).before more := by
  fun_induction readStringFrom reader text with
  | case2 reader rest =>
      rw [List.cons_append, readStringFrom_quote]
      exact reader.finish_append rest more
  | case4 reader a b c d rest digits _ inductionHypothesis =>
      simp only [List.cons_append]
      rw [readStringFrom_unit reader _ digits]
      exact inductionHypothesis complete
  | case7 reader letter rest _ meant stands _ inductionHypothesis =>
      simp only [List.cons_append]
      rw [readStringFrom_escaped reader _ stands]
      exact inductionHypothesis complete
  | case10 reader c rest notQuote notBackslash visible inductionHypothesis =>
      rw [List.cons_append, readStringFrom_push reader _ notQuote notBackslash visible]
      exact inductionHypothesis complete
  | _ => cases complete

section Containers

variable {rounds : Nat} {text rest later : List Char} {c : Char}

theorem readValue_array (opens : skipBlanks text = '[' :: rest)
    (starts : skipBlanks rest = c :: later) (notClosing : c ≠ ']') :
    readValue (rounds + 1) text =
      let items := readItems rounds (c :: later)
      ⟨.array items.value items.fault?, items.fault?, items.rest⟩ := by
  rw [readValue.eq_def]
  simp only [opens, starts]
  split
  · simp_all
  · simp_all
  · rfl

theorem readValue_object (opens : skipBlanks text = '\x7b' :: rest)
    (starts : skipBlanks rest = c :: later) (notClosing : c ≠ '\x7d') :
    readValue (rounds + 1) text =
      let members := readMembers rounds (c :: later)
      ⟨.object members.value members.fault?, members.fault?, members.rest⟩ := by
  rw [readValue.eq_def]
  simp only [opens, starts]
  split
  · simp_all
  · simp_all
  · rfl

theorem readItems_next {item : Reading Json} (itemRead : readValue rounds text = item)
    (complete : item.fault? = none) (goesOn : skipBlanks item.rest = ',' :: rest)
    (starts : skipBlanks rest = c :: later) (notClosing : c ≠ ']') :
    readItems (rounds + 1) text =
      let further := readItems rounds (c :: later)
      { further with value := item.value :: further.value } := by
  rw [readItems]
  simp only [itemRead, complete, goesOn, starts]
  split
  · simp_all
  · rfl

theorem readMembers_next {key : Reading Content} {member : Reading Json}
    (keyRead : readStringFrom .empty text = key) (keyComplete : key.fault? = none)
    (colon : skipBlanks key.rest = ':' :: rest) (memberRead : readValue rounds rest = member)
    (complete : member.fault? = none) (goesOn : skipBlanks member.rest = ',' :: later) :
    readMembers (rounds + 1) ('"' :: text) =
      let further := readMembers rounds (skipBlanks later)
      { further with value := (key.value, member.value) :: further.value } := by
  rw [readMembers]
  simp only [keyRead, keyComplete, colon, memberRead, complete, goesOn]

end Containers

theorem fault?_readItems_nil (rounds : Nat) : (readItems rounds []).fault? ≠ none := by
  cases rounds with
  | zero => exact nofun
  | succ rounds => cases rounds <;> simp [readItems, readValue, skipBlanks]

theorem fault?_readMembers_nil (rounds : Nat) : (readMembers rounds []).fault? ≠ none := by
  cases rounds <;> simp [readMembers]

/-- What is read in some rounds without a fault is read so in at least as many rounds, in
front of any text with which no number goes on. -/
structure IsLocal (rounds : Nat) : Prop where
  value {text more : List Char} {rounds' : Nat} (enough : rounds ≤ rounds')
    (ends : EndsNumber more) (complete : (readValue rounds text).fault? = none) :
    readValue rounds' (text ++ more) = (readValue rounds text).before more
  items {text more : List Char} {rounds' : Nat} (enough : rounds ≤ rounds')
    (ends : EndsNumber more) (complete : (readItems rounds text).fault? = none) :
    readItems rounds' (text ++ more) = (readItems rounds text).before more
  members {text more : List Char} {rounds' : Nat} (enough : rounds ≤ rounds')
    (ends : EndsNumber more) (complete : (readMembers rounds text).fault? = none) :
    readMembers rounds' (text ++ more) = (readMembers rounds text).before more

namespace IsLocal

variable {rounds rounds' : Nat} {text more : List Char}

theorem readValue_append (fewer : ∀ earlier < rounds, IsLocal earlier) (enough : rounds ≤ rounds')
    (ends : EndsNumber more) (complete : (readValue rounds text).fault? = none) :
    readValue rounds' (text ++ more) = (readValue rounds text).before more := by
  revert complete
  fun_cases readValue rounds text
  all_goals intro complete
  -- A reading that has stopped at a fault is not complete.
  all_goals try (cases complete; done)
  all_goals obtain ⟨later, rfl⟩ := Nat.exists_eq_succ_of_ne_zero (Nat.ne_zero_of_lt enough)
  case case3 rounds rest opens | case4 rounds rest opens | case5 rounds rest opens =>
    simp only [readValue, skipBlanks_append opens]
    exact readLetters_append complete more
  case case6 rounds rest content opens =>
    rw [readValue_string (skipBlanks_append opens more), readStringFrom_append complete]
    rfl
  case case8 rounds inner rest closes opens =>
    simp only [readValue, skipBlanks_append opens, skipBlanks_append closes]
    rfl
  case case9 rounds rest notEmpty notClosing items opens =>
    obtain ⟨c, tail, starts⟩ := List.exists_cons_of_ne_nil notEmpty
    have cNotClosing : c ≠ ']' := by
      rintro rfl
      exact notClosing tail starts
    rw [readValue_array (skipBlanks_append opens more) (skipBlanks_append starts more) cNotClosing]
    have itemsLater : readItems later (skipBlanks rest ++ more) = items.before more :=
      (fewer rounds (Nat.lt_succ_self _)).items (Nat.le_of_succ_le_succ enough) ends complete
    rw [starts] at itemsLater
    simp only [← List.cons_append, itemsLater]
    rfl
  case case11 rounds inner rest closes opens =>
    simp only [readValue, skipBlanks_append opens, skipBlanks_append closes]
    rfl
  case case12 rounds rest notEmpty notClosing members opens =>
    obtain ⟨c, tail, starts⟩ := List.exists_cons_of_ne_nil notEmpty
    have cNotClosing : c ≠ '\x7d' := by
      rintro rfl
      exact notClosing tail starts
    rw [readValue_object (skipBlanks_append opens more) (skipBlanks_append starts more) cNotClosing]
    have membersLater : readMembers later (skipBlanks rest ++ more) = members.before more :=
      (fewer rounds (Nat.lt_succ_self _)).members (Nat.le_of_succ_le_succ enough) ends complete
    rw [starts] at membersLater
    simp only [← List.cons_append, membersLater]
    rfl
  case case13 rounds rest opens =>
    simp only [readValue, skipBlanks_append opens]
    exact readNumber_append ends complete
  case case14 rounds c rest _ _ _ _ _ _ _ isDigit opens =>
    rw [readValue_digit (skipBlanks_append opens more) isDigit]
    exact readNumber_append ends complete

theorem readItems_append (fewer : ∀ earlier < rounds, IsLocal earlier) (enough : rounds ≤ rounds')
    (ends : EndsNumber more) (complete : (readItems rounds text).fault? = none) :
    readItems rounds' (text ++ more) = (readItems rounds text).before more := by
  revert complete
  fun_cases readItems rounds text
  all_goals intro complete
  all_goals try (cases complete; done)
  all_goals obtain ⟨later, rfl⟩ := Nat.exists_eq_succ_of_ne_zero (Nat.ne_zero_of_lt enough)
  case case4 rounds rest item itemComplete closes =>
    have itemLater : readValue later (text ++ more) = item.before more :=
      (fewer rounds (Nat.lt_succ_self _)).value (Nat.le_of_succ_le_succ enough) ends itemComplete
    rw [readItems_last itemLater itemComplete (skipBlanks_append closes more)]
    rfl
  case case6 rounds rest notClosing further item itemComplete goesOn =>
    have isLocal := fewer rounds (Nat.lt_succ_self _)
    have enoughLater := Nat.le_of_succ_le_succ enough
    have itemLater : readValue later (text ++ more) = item.before more :=
      isLocal.value enoughLater ends itemComplete
    have furtherLater : readItems later (skipBlanks rest ++ more) = further.before more :=
      isLocal.items enoughLater ends complete
    have notEmpty : skipBlanks rest ≠ [] := by
      intro empty
      apply fault?_readItems_nil rounds
      rw [← empty]
      exact complete
    obtain ⟨c, tail, starts⟩ := List.exists_cons_of_ne_nil notEmpty
    have cNotClosing : c ≠ ']' := by
      rintro rfl
      exact notClosing tail starts
    rw [readItems_next itemLater itemComplete (skipBlanks_append goesOn more)
      (skipBlanks_append starts more) cNotClosing]
    rw [starts] at furtherLater
    simp only [← List.cons_append, furtherLater]
    rfl

theorem readMembers_append (fewer : ∀ earlier < rounds, IsLocal earlier)
    (enough : rounds ≤ rounds') (ends : EndsNumber more)
    (complete : (readMembers rounds text).fault? = none) :
    readMembers rounds' (text ++ more) = (readMembers rounds text).before more := by
  revert complete
  fun_cases readMembers rounds text
  all_goals intro complete
  all_goals try (cases complete; done)
  all_goals obtain ⟨later, rfl⟩ := Nat.exists_eq_succ_of_ne_zero (Nat.ne_zero_of_lt enough)
  case case5 rounds rest key value colon keyComplete member behind closes memberComplete =>
    have keyLater := readStringFrom_append keyComplete more
    have memberLater : readValue later (value ++ more) = member.before more :=
      (fewer rounds (Nat.lt_succ_self _)).value (Nat.le_of_succ_le_succ enough) ends memberComplete
    rw [List.cons_append, readMembers_last keyLater keyComplete (skipBlanks_append colon more)
      memberLater memberComplete (skipBlanks_append closes more)]
    rfl
  case case6 rounds rest key value colon keyComplete member behind goesOn memberComplete further =>
    have isLocal := fewer rounds (Nat.lt_succ_self _)
    have enoughLater := Nat.le_of_succ_le_succ enough
    have keyLater := readStringFrom_append keyComplete more
    have memberLater : readValue later (value ++ more) = member.before more :=
      isLocal.value enoughLater ends memberComplete
    have furtherLater : readMembers later (skipBlanks behind ++ more) = further.before more :=
      isLocal.members enoughLater ends complete
    have notEmpty : skipBlanks behind ≠ [] := by
      intro empty
      apply fault?_readMembers_nil rounds
      rw [← empty]
      exact complete
    obtain ⟨c, tail, starts⟩ := List.exists_cons_of_ne_nil notEmpty
    rw [List.cons_append, readMembers_next keyLater keyComplete (skipBlanks_append colon more)
      memberLater memberComplete (skipBlanks_append goesOn more), skipBlanks_append starts more,
      ← List.cons_append, ← starts]
    simp only [furtherLater]
    rfl

end IsLocal

theorem isLocal (rounds : Nat) : IsLocal rounds := by
  induction rounds using Nat.strongRecOn with
  | ind rounds fewer =>
      exact ⟨IsLocal.readValue_append fewer, IsLocal.readItems_append fewer,
        IsLocal.readMembers_append fewer⟩

end UriExpansion.Json
