import UriExpansion.Yaml.Scalar.Gap

/-!
Plain scalars, which have no quotes. A scalar ends in front of a colon that ends a word,
a comment, a line that is not indented enough, and inside brackets in front of the
characters that separate items.
-/

namespace UriExpansion.Yaml

/-- A plain scalar and the place behind it. -/
structure PlainScalar where
  text : String
  /-- A line break stands between the scalar and the place. -/
  isLineEnd : Bool
  cursor : Cursor

namespace PlainScalar

/-- Characters that have a meaning of their own at the start of a word. -/
def isIndicator (c : Char) : Bool :=
  "-?:,[]\x7b\x7d#&*!|>'\"%@`".toList.contains c

/-- Whether a character starts a plain scalar in front of the text that follows it. -/
def startsWith (inFlow : Bool) (c : Char) (rest : List Char) : Bool :=
  if isBlank c then false
  else if c = '-' then !endsWord rest
  else if c = '?' || c = ':' then !inFlow && !endsWord rest
  else !isIndicator c

def separatesItems (c : Char) : Bool :=
  c = ',' || c = '[' || c = ']' || c = '\x7b' || c = '\x7d'

/-- Whether a scalar ends in front of a character that is part of a word. -/
def endsBefore (inFlow : Bool) (c : Char) (rest : List Char) : Bool :=
  (c = ':' && endsWord rest) || (inFlow && separatesItems c)

/-- Whether a scalar ends in front of a new word. -/
def endsBeforeWord (inFlow : Bool) (indent : Nat) (place : Place) (text : List Char) : Bool :=
  (!inFlow && place.column < indent) || text.head? = some '#'
    || (place.column = 0 && startsMarker text)

/-- Whether a colon stands where neither a word nor a value can go on. -/
def isStrayColon (inFlow : Bool) (c : Char) (rest : List Char) : Bool :=
  inFlow && c = ':' && (rest.head?.map fun next => next = '?' || separatesItems next).getD false

/-- Read a scalar, of which the words so far are given in reverse with the gap behind
them. Lines after the first have to start at the column `indent` or behind it. -/
def readFrom (inFlow : Bool) (indent : Nat) (reversed : List Char) (gap : Gap)
    (place : Place) : List Char → Option PlainScalar
  | [] => some ⟨String.ofList reversed.reverse, gap.isBroken, ⟨[], place⟩⟩
  | c :: rest =>
      if isBlank c then
        if c = '\t' && gap.isBroken && place.column < indent then none
        else readFrom inFlow indent reversed (gap.readBlank c) (place.next c) rest
      else if isBreak c then
        readFrom inFlow indent reversed (gap.readBreak c) place.nextLine rest
      else if !gap.isEmpty && endsBeforeWord inFlow indent place (c :: rest) then
        some ⟨String.ofList reversed.reverse, gap.isBroken, ⟨c :: rest, place⟩⟩
      else if isStrayColon inFlow c rest then none
      else if endsBefore inFlow c rest then
        some ⟨String.ofList reversed.reverse, gap.isBroken, ⟨c :: rest, place⟩⟩
      else readFrom inFlow indent (c :: gap.onto reversed) .empty (place.next c) rest

def read (inFlow : Bool) (indent : Nat) (cursor : Cursor) : Option PlainScalar :=
  readFrom inFlow indent [] .empty cursor.place cursor.rest

end PlainScalar

end UriExpansion.Yaml
