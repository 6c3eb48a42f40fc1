import UriExpansion.Text.RangeTable
import UriExpansion.Text.Grapheme.Classes

/-!
Extended grapheme clusters, the characters as a reader perceives them. Whether a
cluster ends in front of a character depends on the classes of that character and of
the ones before it only, so the text is cut by an automaton that reads it once.

Clusters are never empty, and joined they are the text.
-/

namespace UriExpansion.Text.Grapheme

/-- How a character joins its neighbours. -/
inductive BreakClass where
  | carriageReturn
  | lineFeed
  | control
  /-- An extending character that may stand inside a conjunct of two consonants. -/
  | extend
  /-- An extending character that links two consonants to a conjunct. -/
  | linker
  /-- An extending character that may not stand inside a conjunct. -/
  | nonJoiner
  | zeroWidthJoiner
  | regionalIndicator
  | prepended
  | spacingMark
  | hangulLeading
  | hangulVowel
  | hangulTrailing
  | hangulOpenSyllable
  | hangulClosedSyllable
  | pictograph
  | consonant
  | other
  deriving DecidableEq, Repr

namespace BreakClass

/-- Read the letter that the table of classes uses. -/
def ofLetter : Char → BreakClass
  | 'C' => control
  | 'E' => extend
  | 'K' => linker
  | 'N' => nonJoiner
  | 'Z' => zeroWidthJoiner
  | 'R' => regionalIndicator
  | 'P' => prepended
  | 'S' => spacingMark
  | 'L' => hangulLeading
  | 'V' => hangulVowel
  | 'T' => hangulTrailing
  | 'X' => pictograph
  | 'I' => consonant
  | _ => other

def table : RangeTable BreakClass :=
  .ofText (fun written => ofLetter (written.headD ' ')) classesText

/-- The classes of the characters before U+0300. -/
def ofLowCode (code : Nat) : BreakClass :=
  if code = 0x0D then carriageReturn
  else if code = 0x0A then lineFeed
  else if code < 0x20 ∨ (0x7F ≤ code ∧ code < 0xA0) ∨ code = 0xAD then control
  else if code = 0xA9 ∨ code = 0xAE then pictograph
  else other

def ofChar (c : Char) : BreakClass :=
  let code := c.toNat
  if code < 0x300 then ofLowCode code
  else if 0xAC00 ≤ code ∧ code ≤ 0xD7A3 then
    if (code - 0xAC00) % 28 = 0 then hangulOpenSyllable else hangulClosedSyllable
  else (table.find? code).getD other

/-- Whether the class never joins a neighbour on either side. -/
def isControl : BreakClass → Bool
  | carriageReturn | lineFeed | control => true
  | _ => false

def isExtending : BreakClass → Bool
  | extend | linker | nonJoiner => true
  | _ => false

/-- Whether two Hangul letters or syllables belong to one syllable. -/
def joinsSyllable : BreakClass → BreakClass → Bool
  | hangulLeading, next =>
      next = hangulLeading || next = hangulVowel
        || next = hangulOpenSyllable || next = hangulClosedSyllable
  | hangulOpenSyllable, next | hangulVowel, next => next = hangulVowel || next = hangulTrailing
  | hangulClosedSyllable, next | hangulTrailing, next => next = hangulTrailing
  | _, _ => false

end BreakClass

/-- What the characters read so far say about the next boundary. -/
structure Context where
  last : BreakClass
  /-- An odd number of regional indicators ends the text read so far. -/
  openFlag : Bool
  /-- A pictograph and extending characters end it, apart from a joiner in last place. -/
  afterPictograph : Bool
  /-- A consonant and characters of a conjunct end it. -/
  afterConsonant : Bool
  /-- One of those characters is a linker. -/
  linked : Bool

namespace Context

open BreakClass

/-- Whether a cluster ends between the text read so far and the next character. -/
def breaksBefore (context : Context) (next : BreakClass) : Bool :=
  if context.last = carriageReturn && next = lineFeed then false
  else if context.last.isControl || next.isControl then true
  else if joinsSyllable context.last next then false
  else if next.isExtending || next = zeroWidthJoiner || next = spacingMark then false
  else if context.last = prepended then false
  else if next = consonant && context.afterConsonant && context.linked then false
  else if next = pictograph && context.last = zeroWidthJoiner && context.afterPictograph then false
  else if next = regionalIndicator && context.openFlag then false
  else true

/-- What is known after a further character. -/
def read (context : Context) (next : BreakClass) : Context where
  last := next
  openFlag := next = regionalIndicator && !context.openFlag
  afterPictograph :=
    next = pictograph
      || (context.afterPictograph && context.last ≠ zeroWidthJoiner
        && (next.isExtending || next = zeroWidthJoiner))
  afterConsonant :=
    next = consonant
      || (context.afterConsonant && (next = extend || next = linker || next = zeroWidthJoiner))
  linked :=
    next ≠ consonant && context.afterConsonant && (context.linked || next = linker)

/-- What is known after the first character of a text. -/
def start (first : BreakClass) : Context :=
  { last := first
    openFlag := first = regionalIndicator
    afterPictograph := first = pictograph
    afterConsonant := first = consonant
    linked := false }

end Context

/-- Cut what follows `cluster`, which is reversed and not empty, into clusters. -/
def clustersAfter (context : Context) (cluster : List Char) : List Char → List (List Char)
  | [] => [cluster.reverse]
  | c :: rest =>
      let next := BreakClass.ofChar c
      if context.breaksBefore next then
        cluster.reverse :: clustersAfter (context.read next) [c] rest
      else clustersAfter (context.read next) (c :: cluster) rest

def clusters : List Char → List (List Char)
  | [] => []
  | c :: rest => clustersAfter (.start (.ofChar c)) [c] rest

def takeClusters (count : Nat) (text : List Char) : List Char :=
  ((clusters text).take count).flatten

end UriExpansion.Text.Grapheme
