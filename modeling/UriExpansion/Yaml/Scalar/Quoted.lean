import UriExpansion.Text.Digit
import UriExpansion.Yaml.Scalar.Gap

/-!
Quoted scalars. Between single quotes only a quote written twice stands for something
else. Between double quotes a backslash introduces an escape: a letter, a code point in
hexadecimal digits, or a line break that leaves nothing.
-/

namespace UriExpansion.Yaml.QuotedScalar

/-- An escape of which some characters have been read. -/
inductive Escape where
  | none
  | begun
  /-- So many digits are missing from the code point. -/
  | digits (missing code : Nat)
  deriving DecidableEq, Repr

/-- The character that an escape with a single letter stands for. -/
def escaped? : Char → Option Char
  | '0' => some '\x00'
  | 'a' => some '\x07'
  | 'b' => some '\x08'
  | 't' | '\t' => some '\t'
  | 'n' => some '\n'
  | 'v' => some '\x0b'
  | 'f' => some '\x0c'
  | 'r' => some '\r'
  | 'e' => some '\x1b'
  | ' ' => some ' '
  | '"' => some '"'
  | '/' => some '/'
  | '\\' => some '\\'
  | 'N' => some '\x85'
  | '_' => some '\xa0'
  | 'L' => some '\u2028'
  | 'P' => some '\u2029'
  | _ => Option.none

/-- The number of digits behind a letter that announces a code point. -/
def digitCount? : Char → Option Nat
  | 'x' => some 2
  | 'u' => some 4
  | 'U' => some 8
  | _ => Option.none

/-- The character that has a code point. -/
def ofCode? (code : Nat) : Option Char :=
  if code < 0xD800 ∨ (0xDFFF < code ∧ code ≤ 0x10FFFF) then some (Char.ofNat code)
  else Option.none

/-- Read a scalar up to its closing quote: its text and the place behind it. What has
been read so far is given in reverse, with the gap and the escape that are under way. -/
def readFrom (double : Bool) (reversed : List Char) (gap : Gap) (escape : Escape)
    (place : Place) : List Char → Option (String × Cursor)
  | [] => Option.none
  | c :: rest =>
      match escape with
      | .begun =>
          if isBreak c then
            readFrom double reversed (.broken Option.none []) .none place.nextLine rest
          else
            match escaped? c, digitCount? c with
            | some meant, _ =>
                readFrom double (meant :: reversed) .empty .none (place.next c) rest
            | Option.none, some count =>
                readFrom double reversed .empty (.digits count 0) (place.next c) rest
            | Option.none, Option.none => Option.none
      | .digits missing code =>
          if Text.isHexDigit c then
            let longer := code * 16 + Text.digitValue c
            if 1 < missing then
              readFrom double reversed .empty (.digits (missing - 1) longer) (place.next c) rest
            else
              match ofCode? longer with
              | some meant =>
                  readFrom double (meant :: reversed) .empty .none (place.next c) rest
              | Option.none => Option.none
          else Option.none
      | .none =>
          if isBlank c then
            readFrom double reversed (gap.readBlank c) .none (place.next c) rest
          else if isBreak c then
            readFrom double reversed (gap.readBreak c) .none place.nextLine rest
          else if place.column = 0 && startsMarker (c :: rest) then Option.none
          else if double then
            if c = '"' then
              some (String.ofList (gap.onto reversed).reverse, ⟨rest, place.next c⟩)
            else if c = '\\' then
              readFrom double (gap.onto reversed) .empty .begun (place.next c) rest
            else readFrom double (c :: gap.onto reversed) .empty .none (place.next c) rest
          else if c = '\'' then
            match rest with
            | '\'' :: later =>
                readFrom double (c :: gap.onto reversed) .empty .none ((place.next c).next c) later
            | _ => some (String.ofList (gap.onto reversed).reverse, ⟨rest, place.next c⟩)
          else readFrom double (c :: gap.onto reversed) .empty .none (place.next c) rest

/-- Read a scalar whose opening quote stands at a place. -/
def read (double : Bool) (cursor : Cursor) : Option (String × Cursor) :=
  let opened := cursor.advance 1
  readFrom double [] .empty .none opened.place opened.rest

end UriExpansion.Yaml.QuotedScalar
