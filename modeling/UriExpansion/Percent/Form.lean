import UriExpansion.Percent.Decoding

/-!
The parameters of a submitted form, `name=value` between ampersands.
-/

namespace UriExpansion.Percent

/-- Read a name or a value: `+` stands for a space and escapes for bytes. -/
def decodeForm (text : List Char) : List Char :=
  Text.Utf8.decodeLossy (decode (Text.Utf8.encode (text.map fun c =>
    if c = '+' then ' ' else c)))

/-- Read a parameter. Without `=` the value is empty. -/
def formParameter (text : List Char) : String × String :=
  (String.ofList (decodeForm (text.takeWhile (· ≠ '='))),
    String.ofList (decodeForm ((text.dropWhile (· ≠ '=')).drop 1)))

/-- The parameters of a form. Between two adjacent ampersands there is none. -/
def formParameters (text : List Char) : List (String × String) :=
  ((text.splitOn '&').filter (!·.isEmpty)).map formParameter

end UriExpansion.Percent
