import UriExpansion.Text.Digit
import UriExpansion.Text.NormalForm
import UriExpansion.Text.Utf8

/-!
Percent-encoding of the text that goes into a URI. A text is brought into normal form
C and written as UTF-8; a byte that may stand in the output is copied and any other is
written as an escape, `%` and two uppercase hexadecimal digits.

When reserved characters may stand in the output, an escape that the text already
holds is kept as it is.
-/

namespace UriExpansion

/-- The characters that a part of a URI may hold without escaping. -/
inductive Allowed where
  /-- `ALPHA / DIGIT / "-" / "." / "_" / "~"` -/
  | unreserved
  /-- The unreserved characters, the delimiters, and escapes as they stand. -/
  | unreservedAndReserved
  deriving DecidableEq, Repr

namespace Percent

def isUnreserved (byte : UInt8) : Bool :=
  let c := Char.ofUInt8 byte
  c.isAlphanum || c = '-' || c = '.' || c = '_' || c = '~'

/-- `":" / "/" / "?" / "#" / "[" / "]" / "@"` and
`"!" / "$" / "&" / "'" / "(" / ")" / "*" / "+" / "," / ";" / "="` -/
def isReserved (byte : UInt8) : Bool :=
  ":/?#[]@!$&'()*+,;=".toList.contains (Char.ofUInt8 byte)

def isHexDigit (byte : UInt8) : Bool :=
  Text.isHexDigit (Char.ofUInt8 byte)

/-- The uppercase hexadecimal digit of a number below sixteen. -/
def hexDigit (number : UInt8) : Char :=
  Char.ofUInt8 (if number < 10 then 0x30 + number else 0x37 + number)

def escape (byte : UInt8) : List Char :=
  ['%', hexDigit (byte / 16), hexDigit (byte % 16)]

def startsWithHexPair : List UInt8 → Bool
  | high :: low :: _ => isHexDigit high && isHexDigit low
  | _ => false

end Percent

namespace Allowed

open Percent

/-- Whether a byte may stand in the output by itself. -/
def contains : Allowed → UInt8 → Bool
  | unreserved, byte => isUnreserved byte
  | unreservedAndReserved, byte => isUnreserved byte || isReserved byte

/-- Whether a byte is copied in front of the bytes that follow it. -/
def keeps (allowed : Allowed) (byte : UInt8) (rest : List UInt8) : Bool :=
  allowed.contains byte
    || (allowed = unreservedAndReserved && byte = 0x25 && startsWithHexPair rest)

/-- Write one byte in front of the bytes that follow it. -/
def encodeByte (allowed : Allowed) (byte : UInt8) (rest : List UInt8) : List Char :=
  if allowed.keeps byte rest then [Char.ofUInt8 byte] else escape byte

/-- The encoding of a list of bytes. It is built from the end, so that each byte is
written knowing the ones behind it. -/
def encodeBytes (allowed : Allowed) (bytes : List UInt8) : List Char :=
  (bytes.foldr (fun byte (rest, output) =>
    (byte :: rest, allowed.encodeByte byte rest ++ output)) ([], [])).2

/-- Bring a text into normal form C and encode it. -/
def encodeChars (allowed : Allowed) (text : List Char) : List Char :=
  allowed.encodeBytes (Text.Utf8.encode (Text.NormalForm.nfc text))

/-- Bring a text into normal form C and encode it. -/
def encode (allowed : Allowed) (text : String) : String :=
  String.ofList (allowed.encodeChars text.toList)

end Allowed

end UriExpansion
