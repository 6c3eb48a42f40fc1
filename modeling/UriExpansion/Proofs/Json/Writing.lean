import Mathlib.Data.List.DropRight
import Mathlib.Data.List.Forall2
import UriExpansion.Json.Writing
import UriExpansion.Proofs.Json.Locality

/-!
Reading what has been written. The text of a string is read as the string, and arrays and
objects whose parts can be read are read as these parts.
-/

namespace UriExpansion.Json

/-- A well-formed text and the value that it is read as. -/
def Holds (text : String) (value : Json) : Prop :=
  read text = (value, none)

section Strings

theorem skipBlanks_cons_of_not_isBlank {c : Char} (visible : isBlank c = false)
    (rest : List Char) : skipBlanks (c :: rest) = c :: rest := by
  simp [skipBlanks, visible]

/-- The digits that are written for a control character are those of its number. -/
theorem numberInBase_control {c : Char} (control : c.toNat < 0x20) :
    ['0', '0', lowerHexDigit (c.toNat / 16), lowerHexDigit (c.toNat % 16)].all
        Text.isHexDigit = true ∧
      Text.numberInBase 16
        ['0', '0', lowerHexDigit (c.toNat / 16), lowerHexDigit (c.toNat % 16)] = c.toNat := by
  generalize c.toNat = code at control
  revert code
  decide

theorem pushUnit_of_lt (reversed : List Char) {unit : Nat} (low : unit < 0xD800) :
    StringReader.pushUnit ⟨reversed, none, none⟩ unit =
      ⟨Char.ofNat unit :: reversed, none, none⟩ := by
  rw [StringReader.pushUnit, if_neg (by omega), if_neg (by omega)]
  rfl

/-- A written character is read in one step. -/
theorem readStringFrom_escapeChar (reversed : List Char) (c : Char) (rest : List Char) :
    readStringFrom ⟨reversed, none, none⟩ (escapeChar c ++ rest) =
      readStringFrom ⟨c :: reversed, none, none⟩ rest := by
  fun_cases escapeChar c
  case case8 control =>
    obtain ⟨areDigits, number⟩ := numberInBase_control control
    simp only [List.cons_append, List.nil_append]
    rw [readStringFrom_unit _ _ areDigits, number, pushUnit_of_lt reversed (by omega),
      Char.ofNat_toNat]
  case case9 notQuote notBackslash _ _ _ _ _ visible =>
    exact readStringFrom_push _ rest notQuote notBackslash visible
  all_goals
    subst c
    exact readStringFrom_escaped _ rest rfl

theorem readStringFrom_flatMap_escapeChar (reversed text rest : List Char) :
    readStringFrom ⟨reversed, none, none⟩ (text.flatMap escapeChar ++ '"' :: rest) =
      ⟨.ok (String.ofList (reversed.reverse ++ text)), none, rest⟩ := by
  induction text generalizing reversed with
  | nil =>
      rw [List.flatMap_nil, List.nil_append, readStringFrom_quote, List.append_nil]
      rfl
  | cons c text inductionHypothesis =>
      rw [List.flatMap_cons, List.append_assoc, readStringFrom_escapeChar, inductionHypothesis,
        List.reverse_cons, List.append_assoc]
      rfl

theorem readStringFrom_stringText (text : String) (rest : List Char) :
    ∃ written, (stringText text).toList ++ rest = '"' :: written ∧
      readStringFrom .empty written = ⟨.ok text, none, rest⟩ := by
  refine ⟨text.toList.flatMap escapeChar ++ '"' :: rest, by simp [stringText], ?_⟩
  rw [StringReader.empty, readStringFrom_flatMap_escapeChar, List.reverse_nil, List.nil_append,
    String.ofList_toList]

end Strings

/-- Text behind a value that goes on with the next part of the container around it or
closes the container. -/
def IsBehindPart (more : List Char) : Prop :=
  ∃ c rest, more = c :: rest ∧ (c = ',' ∨ c = ']' ∨ c = '\x7d')

theorem isBehindPart_cons {c : Char} (isMark : c = ',' ∨ c = ']' ∨ c = '\x7d')
    (rest : List Char) : IsBehindPart (c :: rest) :=
  ⟨c, rest, rfl, isMark⟩

theorem IsBehindPart.skipBlanks_eq {more : List Char} (behind : IsBehindPart more) :
    skipBlanks more = more := by
  obtain ⟨c, rest, rfl, rfl | rfl | rfl⟩ := behind
  all_goals exact skipBlanks_cons_of_not_isBlank rfl rest

theorem IsBehindPart.endsNumber {more : List Char} (behind : IsBehindPart more) :
    EndsNumber more := by
  obtain ⟨c, rest, rfl, rfl | rfl | rfl⟩ := behind
  all_goals
    rintro _ ⟨⟩
    decide

namespace Holds

theorem unique {text : String} {value value' : Json} (left : Holds text value)
    (right : Holds text value') : value = value' :=
  congrArg Prod.fst (left.symm.trans right)

variable {text : String} {value : Json} {rounds : Nat} {more : List Char}

theorem iff_readValue : Holds text value ↔
    (readValue (2 * text.toList.length + 1) text.toList).value = value ∧
      (readValue (2 * text.toList.length + 1) text.toList).fault? = none ∧
      skipBlanks (readValue (2 * text.toList.length + 1) text.toList).rest = [] := by
  rw [Holds, read]
  cases complete : (readValue (2 * text.toList.length + 1) text.toList).fault? with
  | some fault => simp
  | none =>
      cases skipBlanks (readValue (2 * text.toList.length + 1) text.toList).rest <;> simp

/-- A text is read in front of others as it is read alone. -/
theorem readValue_append (holds : Holds text value) (enough : 2 * text.toList.length + 1 ≤ rounds)
    (behind : IsBehindPart more) :
    (readValue rounds (text.toList ++ more)).value = value ∧
      (readValue rounds (text.toList ++ more)).fault? = none ∧
      skipBlanks (readValue rounds (text.toList ++ more)).rest = more := by
  obtain ⟨isValue, complete, onlyBlanks⟩ := iff_readValue.mp holds
  have inFront := (isLocal _).value enough behind.endsNumber complete
  rw [inFront]
  refine ⟨isValue, complete, ?_⟩
  rw [Reading.before, skipBlanks, List.dropWhile_append]
  rw [skipBlanks] at onlyBlanks
  rw [onlyBlanks]
  exact behind.skipBlanks_eq

end Holds

section Containers

variable {rounds : Nat} {more later : List Char}

@[simp]
theorem skipBlanks_skipBlanks (text : List Char) :
    skipBlanks (skipBlanks text) = skipBlanks text :=
  List.dropWhile_idempotent isBlank text

theorem readItems_skipBlanks (rounds : Nat) (text : List Char) :
    readItems rounds (skipBlanks text) = readItems rounds text := by
  have sameValue : ∀ rounds, readValue rounds (skipBlanks text) = readValue rounds text := by
    rintro (_ | rounds) <;> simp only [readValue, skipBlanks_skipBlanks]
  cases rounds with
  | zero => simp only [readItems]
  | succ rounds => simp only [readItems, sameValue]

/-- A value that is read without a fault does not start with a closing bracket. -/
theorem exists_cons_of_readValue {text : List Char}
    (complete : (readValue rounds text).fault? = none) :
    ∃ c rest, skipBlanks text = c :: rest ∧ c ≠ ']' := by
  revert complete
  fun_cases readValue rounds text
  all_goals intro complete
  -- A reading that has stopped at a fault is not complete.
  all_goals try (cases complete; done)
  case case14 rounds c rest _ _ _ _ _ _ _ isDigit starts =>
    refine ⟨c, rest, starts, ?_⟩
    rintro rfl
    cases isDigit
  all_goals exact ⟨_, _, by assumption, by decide⟩

theorem exists_cons_of_readItems {text : List Char}
    (complete : (readItems rounds text).fault? = none) :
    ∃ c rest, skipBlanks text = c :: rest ∧ c ≠ ']' := by
  cases rounds with
  | zero => cases complete
  | succ rounds =>
      cases item : (readValue rounds text).fault? with
      | some fault => simp [readItems, item] at complete
      | none => exact exists_cons_of_readValue item

theorem readItems_single {item : String} {value : Json} (holds : Holds item value)
    (enough : 2 * item.toList.length + 1 ≤ rounds) (more : List Char) :
    readItems (rounds + 1) (item.toList ++ ']' :: more) = ⟨[value], none, more⟩ := by
  obtain ⟨isValue, complete, closes⟩ :=
    holds.readValue_append enough (isBehindPart_cons (c := ']') (by decide) more)
  rw [readItems_last rfl complete closes, isValue]

theorem readItems_cons {item : String} {value : Json} {values : List Json}
    (holds : Holds item value) (enough : 2 * item.toList.length + 1 ≤ rounds)
    (further : readItems rounds later = ⟨values, none, more⟩) :
    readItems (rounds + 1) (item.toList ++ ',' :: later) = ⟨value :: values, none, more⟩ := by
  obtain ⟨isValue, complete, goesOn⟩ :=
    holds.readValue_append enough (isBehindPart_cons (c := ',') (by decide) later)
  obtain ⟨c, rest, starts, notClosing⟩ :=
    exists_cons_of_readItems (congrArg Reading.fault? further)
  rw [readItems_next rfl complete goesOn starts notClosing, isValue, ← starts, readItems_skipBlanks,
    further]

theorem readItems_intercalate {items : List String} {values : List Json}
    (hold : List.Forall₂ Holds items values) (nonempty : items ≠ [])
    (enough : 2 * ([','].intercalate (items.map String.toList)).length + 2 ≤ rounds)
    (more : List Char) :
    readItems rounds ([','].intercalate (items.map String.toList) ++ ']' :: more) =
      ⟨values, none, more⟩ := by
  induction hold generalizing rounds with
  | nil => exact absurd rfl nonempty
  | cons holds hold inductionHypothesis =>
      obtain ⟨fewer, rfl⟩ := Nat.exists_eq_succ_of_ne_zero (Nat.ne_zero_of_lt enough)
      cases hold with
      | nil =>
          simp only [List.map_cons, List.map_nil, List.intercalate_singleton] at enough ⊢
          exact readItems_single holds (by omega) more
      | cons nextHolds hold =>
          simp only [List.map_cons, List.intercalate_cons_cons, List.length_append,
            List.append_assoc, List.length_singleton] at enough inductionHypothesis ⊢
          exact readItems_cons holds (by omega)
            (inductionHypothesis (List.cons_ne_nil _ _) (by omega))

/-- The text of an array of values is read as the array. -/
theorem holds_arrayText {items : List String} {values : List Json}
    (hold : List.Forall₂ Holds items values) : Holds (arrayText items) (.array values none) := by
  by_cases nonempty : items = []
  · subst nonempty
    cases hold
    rfl
  have written : (arrayText items).toList =
      '[' :: ([','].intercalate (items.map String.toList) ++ [']']) := by
    simp [arrayText, String.toList_intercalate]
  have opens : skipBlanks (arrayText items).toList =
      '[' :: ([','].intercalate (items.map String.toList) ++ [']']) := by
    rw [written]
    exact skipBlanks_cons_of_not_isBlank rfl _
  have itemsRead : readItems (2 * (arrayText items).toList.length)
      ([','].intercalate (items.map String.toList) ++ [']']) = ⟨values, none, []⟩ := by
    apply readItems_intercalate hold nonempty
    simp only [written, List.length_cons, List.length_append]
    omega
  obtain ⟨c, rest, starts, notClosing⟩ :=
    exists_cons_of_readItems (congrArg Reading.fault? itemsRead)
  rw [Holds.iff_readValue, readValue_array opens starts notClosing, ← starts, readItems_skipBlanks,
    itemsRead]
  exact ⟨rfl, rfl, rfl⟩

/-- The written text of a member. -/
def memberText (member : String × String) : List Char :=
  (stringText member.1).toList ++ ':' :: member.2.toList

/-- A written member and the member that it is read as. -/
structure HoldsMember (member : String × String) (read : Content × Json) : Prop where
  key : read.1 = .ok member.1
  value : Holds member.2 read.2

theorem Holds.member {text : String} {value : Json} (holds : Holds text value) (name : String) :
    HoldsMember (name, text) (.ok name, value) :=
  ⟨rfl, holds⟩

section Members

variable {member : String × String} {read : Content × Json}

theorem exists_memberText_append (member : String × String) (behind : List Char) :
    ∃ written, memberText member ++ behind = '"' :: written ∧
      readStringFrom .empty written = ⟨.ok member.1, none, ':' :: (member.2.toList ++ behind)⟩ := by
  obtain ⟨written, equality, keyRead⟩ :=
    readStringFrom_stringText member.1 (':' :: (member.2.toList ++ behind))
  exact ⟨written, by simpa [memberText] using equality, keyRead⟩

theorem enough_of_memberText (enough : 2 * (memberText member).length ≤ rounds) :
    2 * member.2.toList.length + 1 ≤ rounds := by
  simp only [memberText, List.length_append, List.length_cons] at enough
  omega

theorem skipBlanks_colon (rest : List Char) : skipBlanks (':' :: rest) = ':' :: rest :=
  skipBlanks_cons_of_not_isBlank rfl rest

theorem readMembers_single (holds : HoldsMember member read)
    (enough : 2 * (memberText member).length ≤ rounds) (more : List Char) :
    readMembers (rounds + 1) (memberText member ++ '\x7d' :: more) = ⟨[read], none, more⟩ := by
  obtain ⟨written, equality, keyRead⟩ := exists_memberText_append member ('\x7d' :: more)
  obtain ⟨isValue, complete, closes⟩ := holds.value.readValue_append
    (enough_of_memberText enough) (isBehindPart_cons (c := '\x7d') (by decide) more)
  rw [equality, readMembers_last keyRead rfl (skipBlanks_colon _) rfl complete closes, isValue,
    ← holds.key]

theorem readMembers_cons (holds : HoldsMember member read)
    (enough : 2 * (memberText member).length ≤ rounds) {reads : List (Content × Json)}
    (further : readMembers rounds ('"' :: later) = ⟨reads, none, more⟩) :
    readMembers (rounds + 1) (memberText member ++ ',' :: '"' :: later) =
      ⟨read :: reads, none, more⟩ := by
  obtain ⟨written, equality, keyRead⟩ := exists_memberText_append member (',' :: '"' :: later)
  obtain ⟨isValue, complete, goesOn⟩ := holds.value.readValue_append
    (enough_of_memberText enough) (isBehindPart_cons (c := ',') (by decide) ('"' :: later))
  rw [equality, readMembers_next keyRead rfl (skipBlanks_colon _) rfl complete goesOn, isValue,
    skipBlanks_cons_of_not_isBlank rfl, further, ← holds.key]

theorem exists_intercalate_memberText {members : List (String × String)} (nonempty : members ≠ [])
    (behind : List Char) :
    ∃ rest, [','].intercalate (members.map memberText) ++ behind = '"' :: rest := by
  obtain ⟨member, later, rfl⟩ := List.exists_cons_of_ne_nil nonempty
  cases later with
  | nil =>
      obtain ⟨written, equality, -⟩ := exists_memberText_append member behind
      exact ⟨written, by simpa using equality⟩
  | cons next later =>
      obtain ⟨written, equality, -⟩ := exists_memberText_append member
        (',' :: ([','].intercalate ((next :: later).map memberText) ++ behind))
      exact ⟨written, by simpa [List.intercalate_cons_cons] using equality⟩

end Members

theorem readMembers_intercalate {members : List (String × String)} {reads : List (Content × Json)}
    (hold : List.Forall₂ HoldsMember members reads) (nonempty : members ≠ [])
    (enough : 2 * ([','].intercalate (members.map memberText)).length + 1 ≤ rounds)
    (more : List Char) :
    readMembers rounds ([','].intercalate (members.map memberText) ++ '\x7d' :: more) =
      ⟨reads, none, more⟩ := by
  induction hold generalizing rounds with
  | nil => exact absurd rfl nonempty
  | cons holds hold inductionHypothesis =>
      obtain ⟨fewer, rfl⟩ := Nat.exists_eq_succ_of_ne_zero (Nat.ne_zero_of_lt enough)
      cases hold with
      | nil =>
          simp only [List.map_cons, List.map_nil, List.intercalate_singleton] at enough ⊢
          exact readMembers_single holds (by omega) more
      | @cons next nextRead later laterRead nextHolds hold =>
          have notLast : next :: later ≠ [] := List.cons_ne_nil _ _
          simp only [List.map_cons, List.intercalate_cons_cons, List.length_append,
            List.append_assoc, List.length_singleton] at enough
          have further : readMembers fewer ([','].intercalate ((next :: later).map memberText) ++
              '\x7d' :: more) = ⟨nextRead :: laterRead, none, more⟩ := by
            apply inductionHypothesis notLast
            rw [List.map_cons]
            omega
          obtain ⟨rest, starts⟩ := exists_intercalate_memberText notLast ('\x7d' :: more)
          rw [List.map_cons, List.map_cons, List.intercalate_cons_cons, ← List.map_cons,
            List.append_assoc, List.append_assoc, starts]
          rw [starts] at further
          exact readMembers_cons holds (by omega) further

/-- The text of an object is read as the object if the texts of its values are read. -/
theorem holds_objectText {members : List (String × String)} {reads : List (Content × Json)}
    (hold : List.Forall₂ HoldsMember members reads) :
    Holds (objectText members) (.object reads none) := by
  by_cases nonempty : members = []
  · subst nonempty
    cases hold
    rfl
  obtain ⟨rest, starts⟩ := exists_intercalate_memberText nonempty ['\x7d']
  have written : (objectText members).toList =
      '\x7b' :: ([','].intercalate (members.map memberText) ++ ['\x7d']) := by
    simp [objectText, String.toList_intercalate, Function.comp_def]
    rfl
  have opens : skipBlanks (objectText members).toList = '\x7b' :: '"' :: rest := by
    rw [written, starts]
    exact skipBlanks_cons_of_not_isBlank rfl _
  have membersRead : readMembers (2 * (objectText members).toList.length)
      ([','].intercalate (members.map memberText) ++ ['\x7d']) = ⟨reads, none, []⟩ := by
    apply readMembers_intercalate hold nonempty
    simp only [written, List.length_cons, List.length_append]
    omega
  rw [starts] at membersRead
  rw [Holds.iff_readValue, readValue_object opens (skipBlanks_cons_of_not_isBlank rfl rest)
    (by decide), membersRead]
  exact ⟨rfl, rfl, rfl⟩

end Containers

section Maps

variable {α : Type} {parts : List α}

theorem holds_arrayText_map {text : α → String} {value : α → Json}
    (hold : ∀ part ∈ parts, Holds (text part) (value part)) :
    Holds (arrayText (parts.map text)) (.array (parts.map value) none) := by
  apply holds_arrayText
  rw [List.forall₂_map_left_iff, List.forall₂_map_right_iff, List.forall₂_same]
  exact hold

theorem holds_objectText_map {member : α → String × String} {read : α → Content × Json}
    (hold : ∀ part ∈ parts, HoldsMember (member part) (read part)) :
    Holds (objectText (parts.map member)) (.object (parts.map read) none) := by
  apply holds_objectText
  rw [List.forall₂_map_left_iff, List.forall₂_map_right_iff, List.forall₂_same]
  exact hold

end Maps

/-- The text of a string is read as the string. -/
theorem holds_stringText (text : String) : Holds (stringText text) (.string (.ok text)) := by
  obtain ⟨written, equality, contentRead⟩ := readStringFrom_stringText text []
  rw [List.append_nil] at equality
  have opens : skipBlanks (stringText text).toList = '"' :: written := by
    rw [equality]
    exact skipBlanks_cons_of_not_isBlank rfl written
  rw [Holds.iff_readValue, readValue_string opens, contentRead]
  exact ⟨rfl, rfl, rfl⟩

theorem holds_null : Holds "null" .null := rfl

theorem decode_eq_ok_iff {α : Type} {take : Json → Except Fault α} {text : String} {taken : α} :
    decode take text = .ok taken ↔ ∃ value, Holds text value ∧ take value = .ok taken := by
  simp only [decode, Holds]
  obtain ⟨value, fault?⟩ := read text
  cases took : take value <;> cases fault? <;> simp [took]

end UriExpansion.Json
