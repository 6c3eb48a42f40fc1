import UriExpansion.Percent.Decoding
import UriExpansion.Url.Address
import UriExpansion.Url.Domain.Basic
import UriExpansion.Url.EncodeSet

/-!
Hosts of URLs. The host of a special URL is an address in brackets, or a domain whose
escapes are decoded and which is an IPv4 address if its last part is a number. The
host of any other URL is kept as it is written, unless it is an address in brackets.
-/

namespace UriExpansion.Url

/-- Why a text is not a URL. -/
inductive Refusal where
  | emptyHost
  | invalidDomain
  | invalidPort
  | invalidIpv4Address
  | invalidIpv6Address
  | invalidHostCharacter
  | relativeWithoutBase
  deriving DecidableEq, Repr

def Refusal.message : Refusal → String
  | emptyHost => "empty host"
  | invalidDomain => "invalid international domain name"
  | invalidPort => "invalid port number"
  | invalidIpv4Address => "invalid IPv4 address"
  | invalidIpv6Address => "invalid IPv6 address"
  | invalidHostCharacter => "invalid domain character"
  | relativeWithoutBase => "relative URL without a base"

inductive Host where
  | name (text : String)
  | ipv4 (address : Nat)
  | ipv6 (pieces : List Nat)
  deriving DecidableEq, Repr

namespace Host

def text : Host → String
  | .name written => written
  | .ipv4 address => Ipv4.text address
  | .ipv6 pieces => "[" ++ Ipv6.text pieces ++ "]"

def isEmpty : Host → Bool
  | .name written => written.isEmpty
  | _ => false

/-- Whether a character may not stand in the host of any URL. -/
def isForbidden (c : Char) : Bool :=
  "\x00\t\n\r #/:<>?@[\\]^|".toList.contains c

/-- Whether a character may not stand in a domain. -/
def isForbiddenInDomain (c : Char) : Bool :=
  isForbidden c || c = '%' || c.toNat < 0x20 || c.toNat = 0x7F

/-- Read an address between brackets, of which only the first is known to be there. -/
def parseBracketed (text : List Char) : Except Refusal Host :=
  if text.getLast? = some ']' then
    match Ipv6.parse? (text.drop 1).dropLast with
    | some pieces => .ok (.ipv6 pieces)
    | none => .error .invalidIpv6Address
  else .error .invalidIpv6Address

/-- Read the host of a special URL. -/
def parseDomain (text : List Char) : Except Refusal Host :=
  if text.head? = some '[' then parseBracketed text
  else
    match Domain.ascii? (Text.Utf8.decodeLossy (Percent.decode (Text.Utf8.encode text))) with
    | none => .error .invalidDomain
    | some domain =>
        if domain.any isForbiddenInDomain then .error .invalidDomain
        else if domain.isEmpty then .error .emptyHost
        else if Ipv4.isAddress domain then
          match Ipv4.parse? domain with
          | some address => .ok (.ipv4 address)
          | none => .error .invalidIpv4Address
        else .ok (.name (String.ofList domain))

/-- Read the host of a URL that is not special. -/
def parseVerbatim (text : List Char) : Except Refusal Host :=
  if text.head? = some '[' then parseBracketed text
  else if text.any isForbidden then .error .invalidHostCharacter
  else .ok (.name (String.ofList (EncodeSet.control.encode text)))

end Host

end UriExpansion.Url
