import Courier.Url.Domain
import Courier.Url.Ipv6

/-!
# Url — Host

Where a URL leads: a name, an address, or for schemes that are not special any text.
-/

namespace Courier

/-- Why a text is no URL. -/
inductive UrlFault where
  | relative
  | emptyHost
  | invalidPort
  | invalidIpv4
  | invalidIpv6
  | invalidDomain
  | invalidHostCharacter
  deriving DecidableEq, Repr

namespace UrlFault

/-- The wording of a fault. -/
def message : UrlFault → String
  | relative => "relative URL without a base"
  | emptyHost => "empty host"
  | invalidPort => "invalid port number"
  | invalidIpv4 => "invalid IPv4 address"
  | invalidIpv6 => "invalid IPv6 address"
  | invalidDomain => "invalid international domain name"
  | invalidHostCharacter => "invalid domain character"

end UrlFault

namespace Url

/-- Where a URL leads. -/
inductive Host where
  | name (text : List Char)
  | ipv4 (address : Nat)
  | ipv6 (groups : List Nat)
  deriving DecidableEq, Repr

namespace Host

/-- Whether a character is always written as an escape: controls and all beyond ASCII. -/
def isControl (c : Char) : Bool := c.toNat < 0x20 || 0x7E < c.toNat

/-- The address in brackets. -/
def ofBrackets (s : List Char) : Except UrlFault Host :=
  if s.getLast? = some ']' then
    match Ipv6.parse? s.dropLast with
    | some groups => .ok (ipv6 groups)
    | none => .error .invalidIpv6
  else .error .invalidIpv6

/-- The host of a special scheme: a name whose last part is a number is an address. -/
def parse : List Char → Except UrlFault Host
  | '[' :: rest => ofBrackets rest
  | s =>
    match Domain.ofBytes? (Text.Percent.decode s) with
    | none => .error .invalidDomain
    | some [] => .error .emptyHost
    | some domain =>
      if Ipv4.endsInNumber domain then
        match Ipv4.parse? domain with
        | some address => .ok (ipv4 address)
        | none => .error .invalidIpv4
      else .ok (name domain)

/-- The host of another scheme. -/
def parsePlain : List Char → Except UrlFault Host
  | '[' :: rest => ofBrackets rest
  | s =>
    if s.any fun c => c.toNat = 0 || "\t\n\r #/:<>?@[\\]^|".toList.contains c then
      .error .invalidHostCharacter
    else .ok (name (Text.Percent.encode isControl s))

/-- The written form. -/
def text : Host → List Char
  | name s => s
  | ipv4 address => Ipv4.text address
  | ipv6 groups => '[' :: Ipv6.text groups ++ [']']

end Host

end Url

end Courier
