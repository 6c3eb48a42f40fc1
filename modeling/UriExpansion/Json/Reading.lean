import UriExpansion.Json.Basic
import UriExpansion.Json.Number
import UriExpansion.Text.Utf8

/-!
Reading JSON texts from left to right up to their first fault. Behind the functions that
read strings and values stand lemmas about what they make of a text by how it starts.
-/

namespace UriExpansion.Json

/-- Something that has been read, the fault that ended the reading if there was one, and
the text behind it. -/
structure Reading (α : Type) where
  value : α
  fault? : Option Fault
  rest : List Char

def isBlank (c : Char) : Bool :=
  c = ' ' || c = '\n' || c = '\t' || c = '\r'

def skipBlanks (text : List Char) : List Char :=
  text.dropWhile isBlank

/-- A string under way: its characters in reverse, the first half of a surrogate pair if
that has just been read, and the first fault. -/
structure StringReader where
  reversed : List Char
  high? : Option Nat
  flaw? : Option Fault

namespace StringReader

def empty : StringReader :=
  ⟨[], none, none⟩

/-- The first half of a pair without the second one is a fault, but not the end. -/
def settle (reader : StringReader) : StringReader :=
  match reader.high? with
  | none => reader
  | some _ => { reader with high? := none, flaw? := reader.flaw?.or (some .malformed) }

def push (reader : StringReader) (c : Char) : StringReader :=
  { reader.settle with reversed := c :: reader.reversed }

/-- Read a code unit that an escape writes. -/
def pushUnit (reader : StringReader) (unit : Nat) : StringReader :=
  if 0xDC00 ≤ unit ∧ unit ≤ 0xDFFF then
    match reader.high? with
    | some high =>
        { reader with
          reversed :=
            Char.ofNat (0x10000 + (high - 0xD800) * 0x400 + (unit - 0xDC00)) :: reader.reversed
          high? := none }
    | none => { reader with flaw? := reader.flaw?.or (some .malformed) }
  else if 0xD800 ≤ unit ∧ unit ≤ 0xDBFF then { reader.settle with high? := some unit }
  else reader.push (Char.ofNat unit)

def finish (reader : StringReader) (rest : List Char) : Reading Content :=
  let settled := reader.settle
  match settled.flaw? with
  | none => ⟨.ok (String.ofList settled.reversed.reverse), none, rest⟩
  | some flaw => ⟨.error flaw, none, rest⟩

def stop (reader : StringReader) (fault : Fault) : Reading Content :=
  ⟨.error (reader.flaw?.getD fault), some fault, []⟩

end StringReader

/-- The character that a letter behind a backslash stands for. -/
def escaped? : Char → Option Char
  | '"' => some '"'
  | '\\' => some '\\'
  | '/' => some '/'
  | 'b' => some '\x08'
  | 'f' => some '\x0c'
  | 'n' => some '\n'
  | 'r' => some '\r'
  | 't' => some '\t'
  | _ => none

/-- What is wrong with an escape that does not have four hexadecimal digits: the text
ends too early if it has less than four bytes left. -/
def digitsFault (text : List Char) : Fault :=
  if Text.Utf8.size (text.take 4) < 4 then .truncated else .malformed

/-- Read a string behind its opening quote. -/
def readStringFrom (reader : StringReader) : List Char → Reading Content
  | [] => reader.stop .truncated
  | c :: rest =>
      if c = '"' then reader.finish rest
      else if c = '\\' then
        match rest with
        | [] => reader.stop .truncated
        | 'u' :: rest =>
            match rest with
            | a :: b :: c :: d :: rest =>
                if [a, b, c, d].all Text.isHexDigit then
                  readStringFrom (reader.pushUnit (Text.numberInBase 16 [a, b, c, d])) rest
                else reader.stop (digitsFault [a, b, c, d])
            | short => reader.stop (digitsFault short)
        | letter :: rest =>
            match escaped? letter with
            | some meant => readStringFrom (reader.push meant) rest
            | none => reader.settle.stop .malformed
      else if c.toNat < 0x20 then reader.settle.stop .malformed
      else readStringFrom (reader.push c) rest

theorem readStringFrom_quote (reader : StringReader) (rest : List Char) :
    readStringFrom reader ('"' :: rest) = reader.finish rest := by
  rw [readStringFrom.eq_def]
  exact if_pos rfl

theorem readStringFrom_push (reader : StringReader) {c : Char} (rest : List Char)
    (notQuote : c ≠ '"') (notBackslash : c ≠ '\\') (visible : ¬ c.toNat < 0x20) :
    readStringFrom reader (c :: rest) = readStringFrom (reader.push c) rest := by
  rw [readStringFrom.eq_def]
  simp [notQuote, notBackslash, visible]

theorem readStringFrom_escaped (reader : StringReader) {letter meant : Char} (rest : List Char)
    (stands : escaped? letter = some meant) :
    readStringFrom reader ('\\' :: letter :: rest) = readStringFrom (reader.push meant) rest := by
  have notUnit : letter ≠ 'u' := by
    rintro rfl
    cases stands
  rw [readStringFrom.eq_def]
  simp [stands]

theorem readStringFrom_unit (reader : StringReader) {a b c d : Char} (rest : List Char)
    (digits : [a, b, c, d].all Text.isHexDigit = true) :
    readStringFrom reader ('\\' :: 'u' :: a :: b :: c :: d :: rest) =
      readStringFrom (reader.pushUnit (Text.numberInBase 16 [a, b, c, d])) rest := by
  rw [readStringFrom.eq_def]
  simp only [digits, if_true]
  rfl

/-- The letters of a name still to be read. -/
def readLetters (value : Json) : List Char → List Char → Reading Json
  | [], text => ⟨value, none, text⟩
  | _ :: _, [] => ⟨.absent .truncated, some .truncated, []⟩
  | letter :: letters, c :: rest =>
      if c = letter then readLetters value letters rest
      else ⟨.absent .malformed, some .malformed, []⟩

/-- Digits, of which there must be one, and the text behind them. -/
def readDigits (text : List Char) : Reading (List Char) :=
  match text.takeWhile Char.isDigit, text.dropWhile Char.isDigit with
  | [], [] => ⟨[], some .truncatedNumber, []⟩
  | [], _ => ⟨[], some .malformed, []⟩
  | digits, rest => ⟨digits, none, rest⟩

/-- The digits in front of the point of a number; a zero in first place is the only one. -/
def readWhole : List Char → Reading (List Char)
  | '0' :: rest =>
      if (rest.head?.map Char.isDigit).getD false then ⟨[], some .malformed, []⟩
      else ⟨['0'], none, rest⟩
  | text => readDigits text

def readFraction : List Char → Reading (List Char)
  | '.' :: rest => readDigits rest
  | text => ⟨[], none, text⟩

def readExponent : List Char → Reading Int
  | mark :: rest =>
      if mark = 'e' ∨ mark = 'E' then
        let (negative, text) :=
          match rest with
          | '-' :: later => (true, later)
          | '+' :: later => (false, later)
          | _ => (false, rest)
        let digits := readDigits text
        ⟨Text.signedNumber negative digits.value, digits.fault?, digits.rest⟩
      else ⟨0, none, mark :: rest⟩
  | [] => ⟨0, none, []⟩

def readNumber (text : List Char) : Reading Json :=
  let whole := readWhole text
  let fraction := readFraction whole.rest
  let exponent := readExponent fraction.rest
  match whole.fault?.or (fraction.fault?.or exponent.fault?) with
  | some fault => ⟨.absent fault, some fault, []⟩
  | none =>
      ⟨.number (isInRange ⟨whole.value, fraction.value, exponent.value⟩), none, exponent.rest⟩

mutual

/-- Read a value. A container reads its parts in fewer rounds than it has itself, two for
each bracket, so that no text needs more than one round beyond twice its length. -/
def readValue : (rounds : Nat) → List Char → Reading Json
  | 0, _ => ⟨.absent .malformed, some .malformed, []⟩
  | rounds + 1, text =>
      match skipBlanks text with
      | [] => ⟨.absent .truncated, some .truncated, []⟩
      | 'n' :: rest => readLetters .null ['u', 'l', 'l'] rest
      | 't' :: rest => readLetters (.bool true) ['r', 'u', 'e'] rest
      | 'f' :: rest => readLetters (.bool false) ['a', 'l', 's', 'e'] rest
      | '"' :: rest =>
          let content := readStringFrom .empty rest
          ⟨.string content.value, content.fault?, content.rest⟩
      | '[' :: rest =>
          match skipBlanks rest with
          | [] => ⟨.array [] (some .truncated), some .truncated, []⟩
          | ']' :: rest => ⟨.array [] none, none, rest⟩
          | rest =>
              let items := readItems rounds rest
              ⟨.array items.value items.fault?, items.fault?, items.rest⟩
      | '\x7b' :: rest =>
          match skipBlanks rest with
          | [] => ⟨.object [] (some .truncated), some .truncated, []⟩
          | '\x7d' :: rest => ⟨.object [] none, none, rest⟩
          | rest =>
              let members := readMembers rounds rest
              ⟨.object members.value members.fault?, members.fault?, members.rest⟩
      | '-' :: rest => readNumber rest
      | c :: rest =>
          if c.isDigit then readNumber (c :: rest)
          else ⟨.absent .malformed, some .malformed, []⟩

/-- Read the items of an array up to its closing bracket. -/
def readItems : (rounds : Nat) → List Char → Reading (List Json)
  | 0, _ => ⟨[], some .malformed, []⟩
  | rounds + 1, text =>
      let item := readValue rounds text
      match item.fault? with
      | some fault => ⟨[item.value], some fault, []⟩
      | none =>
          match skipBlanks item.rest with
          | [] => ⟨[item.value], some .truncated, []⟩
          | ']' :: rest => ⟨[item.value], none, rest⟩
          | ',' :: rest =>
              match skipBlanks rest with
              | ']' :: _ => ⟨[item.value], some .malformed, []⟩
              | rest =>
                  let later := readItems rounds rest
                  { later with value := item.value :: later.value }
          | _ => ⟨[item.value], some .malformed, []⟩

/-- Read the members of an object up to its closing brace. -/
def readMembers : (rounds : Nat) → List Char → Reading (List (Content × Json))
  | 0, _ => ⟨[], some .malformed, []⟩
  | rounds + 1, text =>
      match text with
      | '"' :: rest =>
          let key := readStringFrom .empty rest
          match key.fault?, skipBlanks key.rest with
          | some fault, _ => ⟨[(key.value, .absent fault)], some fault, []⟩
          | none, ':' :: rest =>
              let member := readValue rounds rest
              match member.fault?, skipBlanks member.rest with
              | some fault, _ => ⟨[(key.value, member.value)], some fault, []⟩
              | none, [] => ⟨[(key.value, member.value)], some .truncated, []⟩
              | none, '\x7d' :: rest => ⟨[(key.value, member.value)], none, rest⟩
              | none, ',' :: rest =>
                  let later := readMembers rounds (skipBlanks rest)
                  { later with value := (key.value, member.value) :: later.value }
              | none, _ => ⟨[(key.value, member.value)], some .malformed, []⟩
          | none, [] => ⟨[(key.value, .absent .truncated)], some .truncated, []⟩
          | none, _ => ⟨[(key.value, .absent .malformed)], some .malformed, []⟩
      | [] => ⟨[], some .truncated, []⟩
      | _ => ⟨[], some .malformed, []⟩

end

section Values

variable {rounds : Nat} {text rest later : List Char} {c : Char}

theorem readValue_digit (starts : skipBlanks text = c :: rest) (isDigit : c.isDigit = true) :
    readValue (rounds + 1) text = readNumber (c :: rest) := by
  rw [readValue, starts]
  split
  case h_9 => simp_all
  all_goals simp_all [Char.isDigit]

theorem readValue_string (opens : skipBlanks text = '"' :: rest) :
    readValue (rounds + 1) text =
      let content := readStringFrom .empty rest
      ⟨.string content.value, content.fault?, content.rest⟩ := by
  simp only [readValue, opens]

theorem readItems_last {item : Reading Json} (itemRead : readValue rounds text = item)
    (complete : item.fault? = none) (closes : skipBlanks item.rest = ']' :: rest) :
    readItems (rounds + 1) text = ⟨[item.value], none, rest⟩ := by
  rw [readItems]
  simp only [itemRead, complete, closes]

theorem readMembers_last {key : Reading Content} {member : Reading Json}
    (keyRead : readStringFrom .empty text = key) (keyComplete : key.fault? = none)
    (colon : skipBlanks key.rest = ':' :: rest) (memberRead : readValue rounds rest = member)
    (complete : member.fault? = none) (closes : skipBlanks member.rest = '\x7d' :: later) :
    readMembers (rounds + 1) ('"' :: text) = ⟨[(key.value, member.value)], none, later⟩ := by
  rw [readMembers]
  simp only [keyRead, keyComplete, colon, memberRead, complete, closes]

end Values

/-- Read a text: its value, and the fault that ends the text if there is one. Nothing but
blanks may follow the value. -/
def read (text : String) : Json × Option Fault :=
  let characters := text.toList
  let value := readValue (2 * characters.length + 1) characters
  match value.fault?, skipBlanks value.rest with
  | some fault, _ => (value.value, some fault)
  | none, [] => (value.value, none)
  | none, _ => (value.value, some .malformed)

/-- Take something out of a text. What comes first decides: a fault of the part that is
taken, or what is wrong behind it. -/
def decode {α : Type} (take : Json → Except Fault α) (text : String) : Except Fault α :=
  let (value, fault?) := read text
  match take value, fault? with
  | .error fault, _ => .error fault
  | .ok _, some fault => .error fault
  | .ok taken, none => .ok taken

end UriExpansion.Json
