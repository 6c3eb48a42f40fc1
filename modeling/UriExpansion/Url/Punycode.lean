/-!
Punycode, which writes a label of any characters with ASCII letters, digits and
hyphens. The ASCII characters come first; the others follow as a list of numbers, each
of which tells how far to count through all places and characters to the next one.
-/

namespace UriExpansion.Url.Punycode

/-- The digit of a number below thirty-six. -/
def digit (number : Nat) : Char :=
  Char.ofNat (if number < 26 then 'a'.toNat + number else '0'.toNat + (number - 26))

def digitValue? (c : Char) : Option Nat :=
  if c.isLower then some (c.toNat - 'a'.toNat)
  else if c.isDigit then some (c.toNat - '0'.toNat + 26)
  else none

/-- The least digit that goes on with a number, at a place that counts in steps of 36. -/
def threshold (place bias : Nat) : Nat :=
  if place ≤ bias + 1 then 1 else if bias + 26 ≤ place then 26 else place - bias

/-- Divide by 35 until the number is at most 455, and count the divisions in steps of 36. -/
def shrink : (fuel : Nat) → Nat → Nat → Nat × Nat
  | 0, delta, steps => (delta, steps)
  | fuel + 1, delta, steps =>
      if 455 < delta then shrink fuel (delta / 35) (steps + 36) else (delta, steps)

/-- The bias for the next number. -/
def adapt (delta characters : Nat) (isFirst : Bool) : Nat :=
  let halved := if isFirst then delta / 700 else delta / 2
  let total := halved + halved / characters
  let (small, steps) := shrink total total 0
  steps + 36 * small / (small + 38)

/-- The digits of a number; a number shrinks with every digit, so it bounds their count. -/
def numberDigits (bias : Nat) : (fuel : Nat) → (place number : Nat) → List Char
  | 0, _, number => [digit number]
  | fuel + 1, place, number =>
      let least := threshold place bias
      if number < least then [digit number]
      else
        digit (least + (number - least) % (36 - least))
          :: numberDigits bias fuel (place + 36) ((number - least) / (36 - least))

structure Encoder where
  delta : Nat
  bias : Nat
  written : Nat
  output : List Char

/-- Pass one character of the label on the way to `code`. -/
def Encoder.pass (code ascii : Nat) (encoder : Encoder) (c : Char) : Encoder :=
  if c.toNat < code then { encoder with delta := encoder.delta + 1 }
  else if c.toNat = code then
    { delta := 0
      bias := adapt encoder.delta (encoder.written + 1) (encoder.written = ascii)
      written := encoder.written + 1
      output := encoder.output ++ numberDigits encoder.bias encoder.delta 36 encoder.delta }
  else encoder

/-- Write all occurrences of the next greater character, whose code is given, where
`previous` is the first code that has not been passed yet. -/
def encodeNext (label : List Char) (ascii : Nat) (state : Nat × Encoder) (code : Nat) :
    Nat × Encoder :=
  let (previous, encoder) := state
  let start :=
    { encoder with delta := encoder.delta + (code - previous) * (encoder.written + 1) }
  let done := label.foldl (Encoder.pass code ascii) start
  (code + 1, { done with delta := done.delta + 1 })

def isAscii (c : Char) : Bool :=
  c.toNat < 0x80

/-- The Punycode form of a label. -/
def encode (label : List Char) : List Char :=
  let ascii := label.filter isAscii
  let codes := (((label.filter (!isAscii ·)).map Char.toNat).mergeSort).eraseDups
  let start : Encoder :=
    { delta := 0
      bias := 72
      written := ascii.length
      output := if ascii.isEmpty then [] else ascii ++ ['-'] }
  (codes.foldl (encodeNext label ascii.length) (128, start)).2.output

/-- Read one number: its value and the text behind it. The weight of a digit has to fit
thirty-two bits. -/
def readNumber? (bias : Nat) : (place weight number : Nat) → List Char → Option (Nat × List Char)
  | _, _, _, [] => none
  | place, weight, number, c :: rest =>
      match digitValue? c with
      | none => none
      | some value =>
          let total := number + value * weight
          let least := threshold place bias
          let nextWeight := weight * (36 - least)
          if value < least then some (total, rest)
          else if nextWeight < Nat.pow 2 32 then
            readNumber? bias (place + 36) nextWeight total rest
          else none

/-- Put the characters that the numbers of a text tell about into a label. Every round
takes at least one character, so the length of the text bounds the number of rounds. -/
def decodeFrom? : (rounds : Nat) → (code index bias : Nat) → List Char → List Char →
    Option (List Char)
  | _, _, _, _, label, [] => some label
  | 0, _, _, _, _, _ => none
  | rounds + 1, code, index, bias, label, text =>
      match readNumber? bias 36 1 0 text with
      | none => none
      | some (number, rest) =>
          let places := label.length + 1
          let reached := index + number
          let next := code + reached / places
          if next < 0xD800 ∨ (0xDFFF < next ∧ next < 0x110000) then
            let place := reached % places
            decodeFrom? rounds next (place + 1) (adapt number places (index = 0))
              (label.take place ++ Char.ofNat next :: label.drop place) rest
          else none

/-- The label that a text is the Punycode form of. Its ASCII characters stand in front of
the last hyphen, and no hyphen is written if there are none. -/
def decode? (text : List Char) : Option (List Char) :=
  let behind := (text.reverse.takeWhile (· ≠ '-')).reverse
  let ascii := text.take (text.length - behind.length - 1)
  let numbers := if ascii.isEmpty then text else behind
  if ascii.all isAscii then decodeFrom? numbers.length 128 0 72 ascii numbers else none

end UriExpansion.Url.Punycode
