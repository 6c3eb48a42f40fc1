import UriExpansion.Text.NormalForm
import UriExpansion.Url.Domain.Character

/-!
Characters that join their neighbours, and the joiners between them. The zero width joiner
and the zero width non-joiner change how the characters around them are written, so they
may only stand where they do that.
-/

namespace UriExpansion.Url.Domain

/-- The neighbours that a character joins. -/
inductive Joining where
  | both
  | following
  | preceding
  /-- Lets its neighbours join as if it were not there. -/
  | transparent
  | none
  deriving DecidableEq, Repr

namespace Joining

/-- The characters that join any neighbours, and those besides nonspacing marks that are
transparent. An entry `A-B:x;` gives the letter `x` to every character from `A` to `B`:
`b` for both neighbours, `f` for the following and `p` for the preceding one, and `t` for
none that is hindered. -/
def joiningText : String := "
620:b; 622-625:p; 626:b; 627:p; 628:b; 629:p; 62A-62E:b; 62F-632:p; 633-63F:b; 641-647:b; 648:p;
649-64A:b; 66E-66F:b; 671-673:p; 679-687:b; 688-699:p; 69A-6BF:b; 6C0:p; 6C1-6C2:b; 6C3-6CB:p;
6CC:b; 6CD:p; 6CE:b; 6CF:p; 6D0-6D1:b; 6D2-6D3:p; 6D5:p; 6EE-6EF:p; 6FA-6FC:b; 6FF:b; 710:p;
712-714:b; 715-719:p; 71A-71D:b; 71E:p; 71F-727:b; 728:p; 729:b; 72A:p; 72B:b; 72C:p; 72D-72E:b;
72F:p; 74D:p; 74E-758:b; 759-75B:p; 75C-76A:b; 76B-76C:p; 76D-770:b; 771:p; 772:b; 773-774:p;
775-777:b; 778-779:p; 77A-77F:b; 7CA-7EA:b; 840:p; 841-845:b; 846-847:p; 848:b; 849:p; 84A-853:b;
854:p; 855:b; 856-858:p; 860:b; 862-865:b; 867:p; 868:b; 869-86A:p; 870-882:p; 886:b; 889-88D:b;
88E:p; 88F:b; 8A0-8A9:b; 8AA-8AC:p; 8AE:p; 8AF-8B0:b; 8B1-8B2:p; 8B3-8B8:b; 8B9:p; 8BA-8C8:b; CBF:t;
CC6:t; 1807:b; 1820-1878:b; 1887-18A8:b; 18AA:b; A840-A871:b; A872:f; 10AC0-10AC4:b; 10AC5:p;
10AC7:p; 10AC9-10ACA:p; 10ACD:f; 10ACE-10AD2:p; 10AD3-10AD6:b; 10AD7:f; 10AD8-10ADC:b; 10ADD:p;
10ADE-10AE0:b; 10AE1:p; 10AE4:p; 10AEB-10AEE:b; 10AEF:p; 10B80:b; 10B81:p; 10B82:b; 10B83-10B85:p;
10B86-10B88:b; 10B89:p; 10B8A-10B8B:b; 10B8C:p; 10B8D:b; 10B8E-10B8F:p; 10B90:b; 10B91:p;
10BA9-10BAC:p; 10BAD-10BAE:b; 10D00:f; 10D01-10D21:b; 10D22:p; 10D23:b; 10EC2:p; 10EC3-10EC4:b;
10EC6-10EC7:b; 10F30-10F32:b; 10F33:p; 10F34-10F44:b; 10F51-10F53:b; 10F54:p; 10F70-10F73:b;
10F74-10F75:p; 10F76-10F81:b; 10FB0:b; 10FB2-10FB3:b; 10FB4-10FB6:p; 10FB8:b; 10FB9-10FBA:p;
10FBB-10FBC:b; 10FBD:p; 10FBE-10FBF:b; 10FC1:b; 10FC2-10FC3:p; 10FC4:b; 10FC9:p; 10FCA:b; 10FCB:f;
11A07-11A08:t; 11C3F:t; 1E922-1E943:b; 1E94B:t;
"

/-- Read the letter that the table uses. -/
def ofLetters : List Char → Joining
  | 'b' :: _ => both
  | 'f' :: _ => following
  | 'p' :: _ => preceding
  | 't' :: _ => transparent
  | _ => none

def table : Text.RangeTable Joining :=
  .ofText ofLetters joiningText

def ofChar (c : Char) : Joining :=
  let isNonspacing := (CharacterTraits.ofChar? c).map (·.direction) = some .nonspacing
  (table.find? c.toNat).getD (if isNonspacing then transparent else none)

/-- Whether the first character that is not transparent joins its neighbour on the side of
`side`. -/
def reaches (side : Joining) (characters : List Char) : Bool :=
  match (characters.map ofChar).dropWhile (· = transparent) with
  | [] => false
  | first :: _ => first = both || first = side

end Joining

def nonJoiner : Char :=
  '\u200C'

def joiner : Char :=
  '\u200D'

/-- Whether a mark takes the vowel of the consonant in front of it away. -/
def isVirama (c : Char) : Bool :=
  Text.NormalForm.combiningClass c = 9

/-- Whether `c` may stand behind `before`, which is reversed, and in front of `behind`. A
joiner needs a mark without a vowel in front of it, and a non-joiner that or two characters
that would join without it. -/
def isFitJoiner (before : List Char) (c : Char) (behind : List Char) : Bool :=
  if c = joiner || c = nonJoiner then
    (before.head?.map isVirama).getD false
      || (c = nonJoiner && Joining.reaches .following before && Joining.reaches .preceding behind)
  else true

/-- Whether all joiners of a label are fit, of which `before` has been passed. -/
def areJoinersFit (before : List Char) : List Char → Bool
  | [] => true
  | c :: rest => isFitJoiner before c rest && areJoinersFit (c :: before) rest

end UriExpansion.Url.Domain
