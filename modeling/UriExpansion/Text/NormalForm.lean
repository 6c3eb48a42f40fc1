import UriExpansion.Text.RangeTable
import UriExpansion.Text.NormalForm.Composites
import UriExpansion.Text.NormalForm.Replacements
import UriExpansion.Text.NormalForm.CombiningClasses

/-!
Unicode normal form C. A text is decomposed canonically, the marks behind each
starter are brought into the order of their combining classes, and what is left is
composed again from left to right.

Characters before U+0300 neither reorder nor compose with each other, so a text of
such characters is in normal form as it stands. A text that is not empty has a normal
form that is not empty.
-/

namespace UriExpansion.Text.NormalForm

/-- The composites as triples of a first character, a second one and their composite. -/
def composites : List (Nat × Nat × Nat) :=
  (tableEntries compositesText).flatMap fun (first, compositions) =>
    (compositions.splitOn ',').map fun composition =>
      let (second, composite) := cutAt '>' composition
      (hexNumber first, hexNumber second, hexNumber composite)

/-- One key for a pair of code points. -/
def pairKey (first second : Nat) : Nat :=
  first * 0x200000 + second

def compositionTable : RangeTable Char :=
  .ofPairs (composites.map fun (first, second, composite) =>
    (pairKey first second, Char.ofNat composite))

def pairTable : RangeTable (Char × Char) :=
  .ofPairs (composites.map fun (first, second, composite) =>
    (composite, (Char.ofNat first, Char.ofNat second)))

def replacementTable : RangeTable (List Char) :=
  .ofText (fun written => (written.splitOn '+').map (Char.ofNat <| hexNumber ·))
    replacementsText

def combiningClassTable : RangeTable Nat :=
  .ofText (fun written => Nat.ofDigitChars 10 written 0) combiningClassesText

/-- The canonical combining class of a character; starters have class zero. -/
def combiningClass (c : Char) : Nat :=
  if c.toNat < 0x300 then 0 else (combiningClassTable.find? c.toNat).getD 0

/-- The Hangul syllable at a place in the block of precomposed syllables. -/
def hangulSyllable (index : Nat) : Char :=
  Char.ofNat (0xAC00 + index)

/-- The letters of a precomposed Hangul syllable. -/
def hangulLetters? (c : Char) : Option (List Char) :=
  if 0xAC00 ≤ c.toNat ∧ c.toNat ≤ 0xD7A3 then
    let index := c.toNat - 0xAC00
    let leading := Char.ofNat (0x1100 + index / 588)
    let vowel := Char.ofNat (0x1161 + index % 588 / 28)
    if index % 28 = 0 then some [leading, vowel]
    else some [leading, vowel, Char.ofNat (0x11A7 + index % 28)]
  else none

/-- The syllable that two Hangul letters, or a syllable and a trailing letter, compose to. -/
def hangulComposite? (first second : Char) : Option Char :=
  let f := first.toNat
  let s := second.toNat
  if 0x1100 ≤ f ∧ f < 0x1113 ∧ 0x1161 ≤ s ∧ s < 0x1176 then
    some (hangulSyllable ((f - 0x1100) * 588 + (s - 0x1161) * 28))
  else if 0xAC00 ≤ f ∧ f ≤ 0xD7A3 ∧ (f - 0xAC00) % 28 = 0 ∧ 0x11A7 < s ∧ s < 0x11C3 then
    some (hangulSyllable (f - 0xAC00 + (s - 0x11A7)))
  else none

/-- The character that two adjacent characters compose to. -/
def composite? (first second : Char) : Option Char :=
  (hangulComposite? first second).or
    (compositionTable.find? (pairKey first.toNat second.toNat))

/-- Split a composite into its first character and the rest, as often as `depth` allows,
and put the parts in front of `later`. The parts of a composite are what `pair?` tells,
and the parts of a character that nothing composes to what `replacement?` tells. -/
def decomposeOnto (pair? : Char → Option (Char × Char))
    (replacement? : Char → Option (List Char)) (c : Char) (later : List Char) :
    Nat → List Char
  | 0 => c :: later
  | depth + 1 =>
      match pair? c with
      | some (first, second) =>
          decomposeOnto pair? replacement? first (second :: later) depth
      | none =>
          match replacement? c with
          | some (first :: rest) => first :: (rest ++ later)
          | _ => c :: later

/-- The canonical decomposition of a character. No composite is nested more than four deep. -/
def decompose (c : Char) : List Char :=
  (hangulLetters? c).getD
    (decomposeOnto (pairTable.find? ·.toNat) (replacementTable.find? ·.toNat) c [] 4)

/-- A character with its combining class. -/
abbrev Classified := Nat × Char

/-- Put a mark in front of a reversed text, but behind every mark of a greater class
that directly precedes it. -/
def insertMark (mark : Classified) : List Classified → List Classified
  | [] => [mark]
  | previous :: earlier =>
      if mark.1 < previous.1 then previous :: insertMark mark earlier
      else mark :: previous :: earlier

/-- Bring the marks behind each starter into the order of their classes. -/
def canonicalOrder (text : List Char) : List Classified :=
  (text.foldl (fun reversed c =>
    let entry := (combiningClass c, c)
    if entry.1 = 0 then entry :: reversed else insertMark entry reversed) []).reverse

/-- How far a text is composed: what is finished, the last starter, and the marks
behind it that did not compose with it, each list reversed. -/
structure Composition where
  finished : List Char
  starter : Option Char
  marks : List Char
  lastClass : Nat

namespace Composition

def empty : Composition :=
  ⟨[], none, [], 0⟩

/-- A reversed text for all that has been composed. -/
def settled (state : Composition) : List Char :=
  state.marks ++ (state.starter.toList ++ state.finished)

/-- Take a character that composes with nothing before it. -/
def append (state : Composition) (entry : Classified) : Composition :=
  if entry.1 = 0 then ⟨state.settled, some entry.2, [], 0⟩
  else { state with marks := entry.2 :: state.marks, lastClass := entry.1 }

/-- A character reaches the starter unless a mark of no smaller class stands between. -/
def reaches (state : Composition) (entry : Classified) : Bool :=
  state.marks.isEmpty || state.lastClass < entry.1

def step (state : Composition) (entry : Classified) : Composition :=
  match state.starter with
  | none => state.append entry
  | some starter =>
      match (if state.reaches entry then composite? starter entry.2 else none) with
      | some composed => { state with starter := some composed }
      | none => state.append entry

end Composition

/-- Compose a decomposed text whose marks are in order. -/
def compose (text : List Classified) : List Char :=
  (text.foldl Composition.step .empty).settled.reverse

/-- Whether a character belongs to no composition that a text of such characters holds. -/
def isInert (c : Char) : Bool :=
  c.toNat < 0x300

def nfc (text : List Char) : List Char :=
  if text.all isInert then text
  else compose (canonicalOrder (text.flatMap decompose))

end UriExpansion.Text.NormalForm
