/-!
Places in a YAML text, and the kinds of characters that are told apart. Line breaks are
brought into one form before anything else is read; the separators of lines and of
paragraphs are line breaks too, but stay what they are.
-/

namespace UriExpansion.Yaml

/-- A place in a text. Lines and columns are counted from zero. -/
structure Place where
  line : Nat
  column : Nat
  /-- The number of bytes in front of it in its line. -/
  offset : Nat
  deriving DecidableEq, Repr

namespace Place

def start : Place :=
  ⟨0, 0, 0⟩

def next (place : Place) (c : Char) : Place :=
  { place with column := place.column + 1, offset := place.offset + c.utf8Size }

def nextLine (place : Place) : Place :=
  ⟨place.line + 1, 0, 0⟩

end Place

/-- A place with the text that follows it. -/
structure Cursor where
  rest : List Char
  place : Place

/-- A place further on in the same line. -/
def Cursor.advance (cursor : Cursor) (count : Nat) : Cursor :=
  ⟨cursor.rest.drop count, (cursor.rest.take count).foldl Place.next cursor.place⟩

/-- Write every line break as a line feed. -/
def unifyBreaks : List Char → List Char
  | '\r' :: '\n' :: rest => '\n' :: unifyBreaks rest
  | c :: rest => (if c = '\r' || c = '\x85' then '\n' else c) :: unifyBreaks rest
  | [] => []

def isBreak (c : Char) : Bool :=
  c = '\n' || c = '\u2028' || c = '\u2029'

def isBlank (c : Char) : Bool :=
  c = ' ' || c = '\t'

/-- Whether a character may stand in a text at all. -/
def isAllowed (c : Char) : Bool :=
  let code := c.toNat
  c = '\t' || c = '\n' || c = '\r' || (0x20 ≤ code ∧ code ≤ 0x7E) || c = '\x85'
    || (0xA0 ≤ code && code != 0xFFFE && code != 0xFFFF)

/-- Whether a word cannot go on in front of a text. -/
def endsWord : List Char → Bool
  | [] => true
  | c :: _ => isBlank c || isBreak c

/-- Whether a text starts with a word that consists of a mark three times. -/
def startsTriple (mark : Char) : List Char → Bool
  | first :: second :: third :: rest =>
      first = mark && second = mark && third = mark && endsWord rest
  | _ => false

/-- Whether a line is the marker of the start or the end of a document. -/
def startsMarker (line : List Char) : Bool :=
  startsTriple '-' line || startsTriple '.' line

end UriExpansion.Yaml
