import UriExpansion.Text.Decimal
import UriExpansion.Text.Digit

/-!
The range of JSON numbers. The digits of a number are read as an integer of sixty-four
bits and those that do not fit are dropped. The integer is rounded to a double, and so is
the power of ten that it is multiplied by; the number is out of range if their product is.
-/

namespace UriExpansion.Json

def fitsWord (number : Nat) : Bool :=
  number < Nat.pow 2 64

/-- Append digits to a number for as long as it fits sixty-four bits: the number, and how
many digits have been appended. -/
def appendFitting (number : Nat) : List Char → Nat × Nat
  | [] => (number, 0)
  | digit :: rest =>
      let longer := number * 10 + Text.digitValue digit
      if fitsWord longer then
        let (appended, count) := appendFitting longer rest
        (appended, count + 1)
      else (number, 0)

def isInRange (decimal : Text.Decimal) : Bool :=
  let (whole, wholeCount) := appendFitting 0 decimal.whole
  let (significand, fractionCount) := appendFitting whole decimal.fraction
  let exponent := decimal.exponent + (decimal.whole.length - wholeCount) - fractionCount
  if significand = 0 || exponent < 0 then true
  else if 308 < exponent then false
  else
    let power := Text.roundToDouble (Nat.pow 10 exponent.toNat)
    Text.roundToDouble significand * power < Text.doubleBound

end UriExpansion.Json
