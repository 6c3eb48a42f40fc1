/-!
Writing JSON texts without blanks.
-/

namespace UriExpansion.Json

def lowerHexDigit (number : Nat) : Char :=
  Char.ofNat (if number < 10 then '0'.toNat + number else 'a'.toNat + (number - 10))

def escapeChar (c : Char) : List Char :=
  if c = '"' then ['\\', '"']
  else if c = '\\' then ['\\', '\\']
  else if c = '\x08' then ['\\', 'b']
  else if c = '\x0c' then ['\\', 'f']
  else if c = '\n' then ['\\', 'n']
  else if c = '\r' then ['\\', 'r']
  else if c = '\t' then ['\\', 't']
  else if c.toNat < 0x20 then
    ['\\', 'u', '0', '0', lowerHexDigit (c.toNat / 16), lowerHexDigit (c.toNat % 16)]
  else [c]

def stringText (text : String) : String :=
  "\"" ++ String.ofList (text.toList.flatMap escapeChar) ++ "\""

/-- The JSON text of an array of values that are written already. -/
def arrayText (items : List String) : String :=
  "[" ++ String.intercalate "," items ++ "]"

/-- The JSON text of an object whose values are written already. -/
def objectText (members : List (String × String)) : String :=
  "\x7b" ++ String.intercalate "," (members.map fun (key, value) => stringText key ++ ":" ++ value)
    ++ "\x7d"

def optionalStringText : Option String → String
  | none => "null"
  | some text => stringText text

end UriExpansion.Json
