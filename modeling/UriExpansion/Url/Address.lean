import UriExpansion.Text.Digit

/-!
Internet addresses as the hosts of URLs. An IPv4 address is written as up to four
numbers, decimal, octal or hexadecimal, the last of which fills the bytes that remain.
An IPv6 address is eight pieces, of which one run of zeros may be left out and the
last two may be written as an IPv4 address.
-/

namespace UriExpansion.Url

open Text (isHexDigit isOctalDigit numberInBase)

/-- The number that a list of digits of a base writes. -/
def digitsInBase? (base : Nat) (isDigit : Char → Bool) (digits : List Char) : Option Nat :=
  if digits.all isDigit then some (numberInBase base digits) else none

namespace Ipv4

/-- A number of an address: `0x` announces hexadecimal digits, and `0` octal ones. -/
def number? : List Char → Option Nat
  | [] => none
  | '0' :: 'x' :: digits | '0' :: 'X' :: digits => digitsInBase? 16 isHexDigit digits
  | '0' :: digit :: digits => digitsInBase? 8 isOctalDigit (digit :: digits)
  | digits => digitsInBase? 10 Char.isDigit digits

/-- The parts of a name between dots, without an empty one in last place. -/
def parts (name : List Char) : List (List Char) :=
  let all := name.splitOn '.'
  if 1 < all.length && all.getLast? = some [] then all.dropLast else all

/-- Whether the last part of a name makes it an address. -/
def isAddress (name : List Char) : Bool :=
  match (parts name).getLast? with
  | none => false
  | some last => (!last.isEmpty && last.all Char.isDigit) || (number? last).isSome

/-- Put the numbers of an address together. All but the last stand for one byte each,
and the last for the bytes that remain. -/
def combine? : (remaining : Nat) → List Nat → Option Nat
  | remaining, [last] => if last < 256 ^ remaining then some last else none
  | remaining + 1, first :: rest =>
      if first < 256 then
        (combine? remaining rest).map fun later => first * 256 ^ remaining + later
      else none
  | _, _ => none

/-- Read an address. -/
def parse? (name : List Char) : Option Nat :=
  if 4 < (parts name).length then none
  else ((parts name).mapM number?).bind (combine? 4)

/-- The four bytes of an address in decimal digits. -/
def text (address : Nat) : String :=
  String.intercalate "." ([16777216, 65536, 256, 1].map fun place =>
    String.ofList (Nat.toDigits 10 (address / place % 256)))

end Ipv4

namespace Ipv6

/-- Pieces read so far, in reverse, and how many of them stand before the run of zeros
that is left out. -/
structure Pieces where
  reversed : List Nat
  omission? : Option Nat

/-- A byte of an address in dotted decimal form, without leading zeros. -/
def byte? (digits : List Char) : Option Nat :=
  if digits.isEmpty || !digits.all Char.isDigit || (1 < digits.length && digits.head? = some '0')
  then none
  else
    let number := numberInBase 10 digits
    if number < 256 then some number else none

/-- The two pieces that an address in dotted decimal form stands for. -/
def dottedPieces? (text : List Char) : Option (Nat × Nat) :=
  match (text.splitOn '.').mapM byte? with
  | some [a, b, c, d] => some (a * 256 + b, c * 256 + d)
  | _ => none

/-- Read pieces until the text ends. Every round takes at least one character, so the
length of the text bounds the number of rounds. -/
def readPieces? : (rounds : Nat) → Pieces → List Char → Option Pieces
  | _, pieces, [] => some pieces
  | 0, _, _ => none
  | rounds + 1, pieces, c :: rest =>
      if pieces.reversed.length = 8 then none
      else if c = ':' then
        if pieces.omission?.isSome then none
        else readPieces? rounds ⟨0 :: pieces.reversed, some (pieces.reversed.length + 1)⟩ rest
      else
        let digits := ((c :: rest).take 4).takeWhile isHexDigit
        let piece := numberInBase 16 digits
        match (c :: rest).drop digits.length with
        | [] => some { pieces with reversed := piece :: pieces.reversed }
        | ':' :: next :: later =>
            readPieces? rounds { pieces with reversed := piece :: pieces.reversed } (next :: later)
        | '.' :: _ =>
            if digits.isEmpty || 6 < pieces.reversed.length then none
            else
              (dottedPieces? (c :: rest)).map fun (high, low) =>
                { pieces with reversed := low :: high :: pieces.reversed }
        | _ => none

/-- Put in the zeros that are left out. -/
def Pieces.fill? (pieces : Pieces) : Option (List Nat) :=
  let read := pieces.reversed.reverse
  match pieces.omission? with
  | some before =>
      some (read.take before ++ List.replicate (8 - read.length) 0 ++ read.drop before)
  | none => if read.length = 8 then some read else none

/-- Read the eight pieces of an address. -/
def parse? (text : List Char) : Option (List Nat) :=
  let read? :=
    match text with
    | ':' :: ':' :: rest => readPieces? rest.length ⟨[0], some 1⟩ rest
    | ':' :: _ | [] | [_] => none
    | _ => readPieces? text.length ⟨[], none⟩ text
  read?.bind Pieces.fill?

/-- The length of the run of zeros at the start. -/
def zeroRun (pieces : List Nat) : Nat :=
  (pieces.takeWhile (· = 0)).length

/-- Where the first longest run of zeros starts, and its length. -/
def longestZeroRun (pieces : List Nat) : Nat × Nat :=
  (List.range pieces.length).foldl (fun best start =>
    let length := zeroRun (pieces.drop start)
    if best.2 < length then (start, length) else best) (0, 0)

def joinPieces (pieces : List Nat) : String :=
  String.intercalate ":" (pieces.map fun piece => String.ofList (Nat.toDigits 16 piece))

/-- The address with its longest run of zeros left out, if that run has two or more. -/
def text (pieces : List Nat) : String :=
  let (start, length) := longestZeroRun pieces
  if 2 ≤ length then
    joinPieces (pieces.take start) ++ "::" ++ joinPieces (pieces.drop (start + length))
  else joinPieces pieces

end Ipv6

end UriExpansion.Url
