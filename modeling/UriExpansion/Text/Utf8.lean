/-!
UTF-8 as a list of bytes. Decoding never fails as a whole: every longest run of bytes
that starts a character but does not finish it, and every byte that cannot start one,
is reported as one fault in the place of a character.
-/

namespace UriExpansion.Text.Utf8

def encode (text : List Char) : List UInt8 :=
  text.flatMap String.utf8EncodeChar

def size (text : List Char) : Nat :=
  text.foldl (fun total c => total + c.utf8Size) 0

/-- A character of which some bytes have been read. -/
structure Partial where
  missing : Nat
  bits : Nat
  /-- The least and the greatest value that the next byte may have. -/
  low : UInt8
  high : UInt8

/-- What has been decoded, in reverse, and the character under way. -/
structure Decoder where
  output : List (Option Char)
  underWay : Option Partial

namespace Decoder

def empty : Decoder :=
  ⟨[], none⟩

/-- Read the first byte of a character. -/
def readFirst (output : List (Option Char)) (byte : UInt8) : Decoder :=
  let bits := byte.toNat
  if byte < 0x80 then ⟨some (Char.ofNat bits) :: output, none⟩
  else if byte < 0xC2 then ⟨none :: output, none⟩
  else if byte < 0xE0 then ⟨output, some ⟨1, bits - 0xC0, 0x80, 0xBF⟩⟩
  else if byte = 0xE0 then ⟨output, some ⟨2, 0, 0xA0, 0xBF⟩⟩
  else if byte = 0xED then ⟨output, some ⟨2, 0x0D, 0x80, 0x9F⟩⟩
  else if byte < 0xF0 then ⟨output, some ⟨2, bits - 0xE0, 0x80, 0xBF⟩⟩
  else if byte = 0xF0 then ⟨output, some ⟨3, 0, 0x90, 0xBF⟩⟩
  else if byte < 0xF4 then ⟨output, some ⟨3, bits - 0xF0, 0x80, 0xBF⟩⟩
  else if byte = 0xF4 then ⟨output, some ⟨3, 4, 0x80, 0x8F⟩⟩
  else ⟨none :: output, none⟩

/-- Read a byte. One that does not continue the character under way is read again as
the first byte of the next. -/
def read (decoder : Decoder) (byte : UInt8) : Decoder :=
  match decoder.underWay with
  | none => readFirst decoder.output byte
  | some character =>
      if character.low ≤ byte ∧ byte ≤ character.high then
        let bits := character.bits * 64 + (byte.toNat - 0x80)
        if character.missing ≤ 1 then ⟨some (Char.ofNat bits) :: decoder.output, none⟩
        else ⟨decoder.output, some ⟨character.missing - 1, bits, 0x80, 0xBF⟩⟩
      else readFirst (none :: decoder.output) byte

/-- What has been decoded when no byte follows. -/
def finish (decoder : Decoder) : List (Option Char) :=
  (if decoder.underWay.isSome then none :: decoder.output else decoder.output).reverse

end Decoder

/-- The characters of a list of bytes, with `none` for each fault. -/
def decode (bytes : List UInt8) : List (Option Char) :=
  (bytes.foldl Decoder.read .empty).finish

/-- The text of a list of bytes, if it is well-formed UTF-8. -/
def decode? (bytes : List UInt8) : Option (List Char) :=
  (decode bytes).mapM id

/-- The text of a list of bytes, with U+FFFD for each fault. -/
def decodeLossy (bytes : List UInt8) : List Char :=
  (decode bytes).map (·.getD '\uFFFD')

end UriExpansion.Text.Utf8
