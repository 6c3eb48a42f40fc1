import UriExpansion.Yaml.Cursor

/-!
Gaps between the words of a scalar. Blanks inside a line stay as they are. Of blanks
around line breaks nothing stays; a single line break becomes a space, and of several
the first is dropped.
-/

namespace UriExpansion.Yaml

/-- What stands behind a word. -/
inductive Gap where
  /-- Blanks, the last one first. -/
  | blanks (reversed : List Char)
  /-- Line breaks, the first one apart and the last one first. An escaped line break
  leaves no first one. -/
  | broken (first? : Option Char) (reversed : List Char)
  deriving DecidableEq, Repr

namespace Gap

def empty : Gap :=
  .blanks []

def isEmpty : Gap → Bool
  | .blanks [] => true
  | _ => false

def isBroken : Gap → Bool
  | .blanks _ => false
  | .broken _ _ => true

def readBlank (gap : Gap) (c : Char) : Gap :=
  match gap with
  | .blanks reversed => .blanks (c :: reversed)
  | .broken first? reversed => .broken first? reversed

def readBreak (gap : Gap) (c : Char) : Gap :=
  match gap with
  | .blanks _ => .broken (some c) []
  | .broken first? reversed => .broken first? (c :: reversed)

/-- Put what a gap stands for behind a reversed text. -/
def onto (text : List Char) : Gap → List Char
  | .blanks reversed => reversed ++ text
  | .broken none reversed => reversed ++ text
  | .broken (some first) reversed =>
      if first ≠ '\n' then reversed ++ first :: text
      else if reversed.isEmpty then ' ' :: text
      else reversed ++ text

end Gap

end UriExpansion.Yaml
