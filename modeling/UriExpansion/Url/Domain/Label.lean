import UriExpansion.Url.Domain.Joining
import UriExpansion.Url.Punycode

/-!
The labels of domains. A label with characters beyond ASCII is written in Punycode behind
the prefix `xn--`, and what is written there must be the form of such a label.
-/

namespace UriExpansion.Url.Domain

/-- A label by its characters, and as it is written in ASCII. -/
structure Label where
  characters : List Char
  written : List Char
  deriving DecidableEq, Repr

namespace Label

/-- The prefix of labels in Punycode. -/
def punycodePrefix : List Char :=
  "xn--".toList

/-- The greatest number of characters of a label that is not in ASCII. -/
def lengthLimit : Nat :=
  1000

/-- The greatest length of a label in Punycode without its prefix. -/
def writtenLimit : Nat :=
  2000

def isAscii (characters : List Char) : Bool :=
  characters.all Punycode.isAscii

def startsWithMark (characters : List Char) : Bool :=
  ((characters.head?.bind CharacterTraits.ofChar?).map (·.isMark)).getD false

/-- Whether a label may consist of characters. -/
def isFit (characters : List Char) : Bool :=
  isAscii characters
    || (characters.length ≤ lengthLimit
      && characters.all (fun c => (CharacterTraits.ofChar? c).isSome)
      && Text.NormalForm.nfc characters = characters
      && !startsWithMark characters
      && areJoinersFit [] characters)

/-- The characters of a label in Punycode, without its prefix. -/
def decode? (encoded : List Char) : Option (List Char) :=
  if encoded.length ≤ writtenLimit then
    (Punycode.decode? encoded).filter fun characters => isFit characters && !isAscii characters
  else none

/-- Read a label in lowercase and in normal form. -/
def read? (label : List Char) : Option Label :=
  if punycodePrefix.isPrefixOf label then
    (decode? (label.drop punycodePrefix.length)).map fun characters => ⟨characters, label⟩
  else if isAscii label then some ⟨label, label⟩
  else if isFit label then some ⟨label, punycodePrefix ++ Punycode.encode label⟩
  else none

def directions (label : Label) : List Direction :=
  label.characters.filterMap fun c => (CharacterTraits.ofChar? c).map (·.direction)

/-- Whether a label has characters because of which all labels of its domain have to keep
to one direction. -/
def isBidirectional (label : Label) : Bool :=
  label.directions.any fun direction => direction = .rightToLeft || direction = .arabicDigit

/-- Whether a label keeps to the direction of its first character and ends with a letter or
a digit, marks behind it aside. -/
def keepsDirection (label : Label) : Bool :=
  match label.directions with
  | [] => true
  | first :: rest =>
      let last := ((rest.reverse.dropWhile (· = .nonspacing)).head?).getD first
      if first = .leftToRight then
        !rest.contains .rightToLeft && !rest.contains .arabicDigit
          && (last = .leftToRight || last = .europeanDigit)
      else if first = .rightToLeft then
        !rest.contains .leftToRight && last ≠ .neutral
          && !(rest.contains .europeanDigit && rest.contains .arabicDigit)
      else false

end Label

end UriExpansion.Url.Domain
