import UriExpansion.Percent.Encoding

/-!
Reading percent-encoded bytes. A `%` that two hexadecimal digits follow stands with
them for one byte, and everything else for itself.
-/

namespace UriExpansion.Percent

/-- The value of a hexadecimal digit of either case. -/
def hexValue (digit : UInt8) : UInt8 :=
  if digit < 0x3A then digit - 0x30 else if digit < 0x47 then digit - 0x37 else digit - 0x57

/-- Replace every escape by its byte, from left to right. -/
def decode : List UInt8 → List UInt8
  | byte :: high :: low :: rest =>
      if byte = 0x25 && isHexDigit high && isHexDigit low then
        (hexValue high * 16 + hexValue low) :: decode rest
      else byte :: decode (high :: low :: rest)
  | byte :: rest => byte :: decode rest
  | [] => []

end UriExpansion.Percent
