import UriExpansion.Url.Domain.Label

/-!
Domains, whose labels are joined by dots. Where characters run from right to left, every
label has to keep to one direction.
-/

namespace UriExpansion.Url.Domain

/-- The labels of a domain. No characters are mapped but capital letters of ASCII. -/
def labels? (domain : List Char) : Option (List Label) :=
  ((Text.NormalForm.nfc (domain.map Char.toLower)).splitOn '.').mapM Label.read?

/-- Whether labels may stand side by side. -/
def areConsistent (labels : List Label) : Bool :=
  !labels.any Label.isBidirectional || labels.all Label.keepsDirection

/-- The ASCII form of a domain. -/
def ascii? (domain : List Char) : Option (List Char) :=
  ((labels? domain).filter areConsistent).map fun labels =>
    ['.'].intercalate (labels.map Label.written)

end UriExpansion.Url.Domain
