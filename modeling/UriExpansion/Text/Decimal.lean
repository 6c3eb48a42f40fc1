/-!
Decimal numbers and the range of double-precision floating point.
-/

namespace UriExpansion.Text

/-- Round a number to the nearest one with fifty-three significant bits, and a tie to the
one whose last bit is zero. -/
def roundToDouble (number : Nat) : Nat :=
  let unit := Nat.pow 2 (number.log2 + 1 - 53)
  let quotient := number / unit
  let doubledRest := 2 * (number % unit)
  let roundsUp := unit < doubledRest || (unit = doubledRest && quotient % 2 = 1)
  (if roundsUp then quotient + 1 else quotient) * unit

/-- The least number that is rounded to infinity as a double. -/
def doubleBound : Nat :=
  Nat.pow 2 1024 - Nat.pow 2 970

/-- Whether the number `digits · 10 ^ exponent` is finite as a double. -/
def fitsDouble (digits : List Char) (exponent : Int) : Bool :=
  let significant := digits.dropWhile (· = '0')
  let number := Nat.ofDigitChars 10 significant 0
  let magnitude := exponent + significant.length
  if significant.isEmpty || magnitude ≤ 308 then true
  else if 309 < magnitude then false
  else
    match exponent with
    | .ofNat power => number * Nat.pow 10 power < doubleBound
    | .negSucc power => number < doubleBound * Nat.pow 10 (power + 1)

/-- A decimal numeral: its digits, how many of them stand behind the point, and its
exponent. -/
structure Decimal where
  whole : List Char
  fraction : List Char
  exponent : Int
  deriving DecidableEq, Repr

def Decimal.isFinite (decimal : Decimal) : Bool :=
  fitsDouble (decimal.whole ++ decimal.fraction)
    (decimal.exponent - decimal.fraction.length)

/-- The exponent that a sign and digits write. -/
def signedNumber (negative : Bool) (digits : List Char) : Int :=
  let number := Nat.ofDigitChars 10 digits 0
  if negative then -(number : Int) else number

end UriExpansion.Text
