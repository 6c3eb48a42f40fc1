import UriExpansion.Text.RangeTable
import UriExpansion.Url.Domain.Character.Ranges

/-!
The characters of domains: which ones may stand in a label, in which direction they run,
and which are marks.
-/

namespace UriExpansion.Url.Domain

/-- The direction of a character, as far as labels depend on it. -/
inductive Direction where
  | leftToRight
  | rightToLeft
  | europeanDigit
  | arabicDigit
  /-- The direction of a mark that takes no room of its own. -/
  | nonspacing
  | neutral
  deriving DecidableEq, Repr

/-- What is known of a character that may stand in a label. -/
structure CharacterTraits where
  direction : Direction
  isMark : Bool
  deriving DecidableEq, Repr

namespace CharacterTraits

/-- Read what the table of characters says. -/
def ofLetters : List Char → CharacterTraits
  | 'm' :: _ => ⟨.leftToRight, true⟩
  | 'n' :: _ => ⟨.nonspacing, true⟩
  | 'r' :: _ => ⟨.rightToLeft, false⟩
  | 'e' :: _ => ⟨.europeanDigit, false⟩
  | 'a' :: _ => ⟨.arabicDigit, false⟩
  | 'o' :: _ => ⟨.neutral, false⟩
  | _ => ⟨.leftToRight, false⟩

def table : Text.RangeTable CharacterTraits :=
  .ofText ofLetters charactersText

def ofAscii (c : Char) : CharacterTraits :=
  if c.isAlpha then ⟨.leftToRight, false⟩
  else if c.isDigit then ⟨.europeanDigit, false⟩
  else ⟨.neutral, false⟩

/-- What is known of a character, if it may stand in a label. -/
def ofChar? (c : Char) : Option CharacterTraits :=
  if c.toNat < 0x80 then some (ofAscii c) else table.find? c.toNat

end CharacterTraits

end UriExpansion.Url.Domain
