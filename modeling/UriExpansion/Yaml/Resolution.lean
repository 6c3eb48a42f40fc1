import UriExpansion.Text.Decimal
import UriExpansion.Text.Digit
import UriExpansion.Yaml.Node

/-!
What plain scalars are taken for where any kind of value may stand: nothing, a truth
value, a number or else a text.
-/

namespace UriExpansion.Yaml

def isNull (text : String) : Bool :=
  ["null", "Null", "NULL", "~"].contains text

def isTruthValue (text : String) : Bool :=
  ["true", "True", "TRUE", "false", "False", "FALSE"].contains text

/-- Whether an integer of a base is written, which must be less than `bound`. -/
def isIntegerInBase (base bound : Nat) (isDigit : Char → Bool) (digits : List Char) : Bool :=
  !digits.isEmpty && digits.all isDigit && Text.numberInBase base digits < bound

/-- Whether an integer is written whose base is announced by `0x`, `0o` or `0b`. -/
def isBasedInteger (bound : Nat) : List Char → Bool
  | '0' :: 'x' :: digits => isIntegerInBase 16 bound Text.isHexDigit digits
  | '0' :: 'o' :: digits => isIntegerInBase 8 bound Text.isOctalDigit digits
  | '0' :: 'b' :: digits => isIntegerInBase 2 bound Text.isBinaryDigit digits
  | _ => false

/-- Whether digits start with a zero that is not the only one. -/
def hasLeadingZero : List Char → Bool
  | '0' :: digit :: rest => (digit :: rest).all Char.isDigit
  | _ => false

/-- The exponent of a decimal number, where nothing else may be left. -/
def exponent? : List Char → Option Int
  | [] => some 0
  | mark :: rest =>
      let (negative, digits) :=
        match rest with
        | '-' :: digits => (true, digits)
        | '+' :: digits => (false, digits)
        | digits => (false, digits)
      if (mark = 'e' || mark = 'E') && !digits.isEmpty && digits.all Char.isDigit then
        some (Text.signedNumber negative digits)
      else none

/-- Whether a finite decimal number is written, with digits on at least one side of its
point. -/
def isDecimal (text : List Char) : Bool :=
  let whole := text.takeWhile Char.isDigit
  let behindWhole := text.dropWhile Char.isDigit
  let hasPoint := behindWhole.head? = some '.'
  let behindPoint := if hasPoint then behindWhole.drop 1 else behindWhole
  let fraction := if hasPoint then behindPoint.takeWhile Char.isDigit else []
  match exponent? (behindPoint.drop fraction.length) with
  | none => false
  | some exponent =>
      !(whole.isEmpty && fraction.isEmpty) && Text.Decimal.isFinite ⟨whole, fraction, exponent⟩

def isInfinity (text : List Char) : Bool :=
  [".inf", ".Inf", ".INF"].any (·.toList = text)

def isNotANumber (text : String) : Bool :=
  [".nan", ".NaN", ".NAN"].contains text

/-- Whether a number without a sign is written, an integer of another base being less
than `bound`. -/
def isUnsignedNumber (bound : Nat) (text : List Char) : Bool :=
  isBasedInteger bound text || isInfinity text || (!hasLeadingZero text && isDecimal text)

def isNumber (text : String) : Bool :=
  isNotANumber text ||
    match text.toList with
    | '-' :: rest => isUnsignedNumber (Nat.pow 2 127 + 1) rest
    | '+' :: rest => isUnsignedNumber (Nat.pow 2 128) rest
    | unsigned => isUnsignedNumber (Nat.pow 2 128) unsigned

/-- Whether a plain scalar is no text. -/
def isResolved (text : String) : Bool :=
  text.isEmpty || isNull text || isTruthValue text || isNumber text

namespace Node

/-- The text of a scalar, whatever a plain one might be taken for. -/
def text? : Node → Option String
  | .scalar _ text => some text
  | _ => none

/-- The text of a scalar that is not taken for anything else. -/
def properText? : Node → Option String
  | .scalar isPlain text => if isPlain && isResolved text then none else some text
  | _ => none

/-- Whether nothing is written in the place of a value. -/
def isMissing : Node → Bool
  | .scalar isPlain text => isPlain && text.isEmpty
  | _ => false

/-- Whether a value stands for none. -/
def isAbsent : Node → Bool
  | .scalar isPlain text => isPlain && (text.isEmpty || isNull text)
  | _ => false

end Node

end UriExpansion.Yaml
