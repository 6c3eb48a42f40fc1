import UriExpansion.Percent.Encoding

/-!
The bytes that each part of a URL escapes. Escapes that a part holds already stay as
they are, since `%` belongs to none of the sets; bytes beyond ASCII belong to all.
-/

namespace UriExpansion.Url

/-- A set of bytes, given by what it adds to the control characters and the bytes
beyond ASCII. -/
structure EncodeSet where
  characters : List Char

namespace EncodeSet

def contains (set : EncodeSet) (byte : UInt8) : Bool :=
  byte < 0x20 || 0x7E < byte || set.characters.contains (Char.ofUInt8 byte)

/-- Escape the bytes of a text that belong to the set. -/
def encode (set : EncodeSet) (text : List Char) : List Char :=
  (Text.Utf8.encode text).flatMap fun byte =>
    if set.contains byte then Percent.escape byte else [Char.ofUInt8 byte]

def control : EncodeSet :=
  ⟨[]⟩

def fragment : EncodeSet :=
  ⟨" \"<>`".toList⟩

def query : EncodeSet :=
  ⟨" \"#<>".toList⟩

/-- The query of a special URL, which escapes the apostrophe too. -/
def specialQuery : EncodeSet :=
  ⟨'\'' :: query.characters⟩

def path : EncodeSet :=
  ⟨"#?\x7b\x7d".toList ++ fragment.characters⟩

def userinfo : EncodeSet :=
  ⟨"/:;=@[\\]^|".toList ++ path.characters⟩

end EncodeSet

end UriExpansion.Url
