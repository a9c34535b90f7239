import Geocoding.Url.Domain
import Geocoding.Url.Numeric
import Geocoding.Url.Percent

/-!
# Hosts

A host is a name or a number in the network.  Under a special scheme, one for
which the network is known, a name is brought to ASCII in lower case and a name
that ends in a number has to be a number; under any other scheme a name is any
text without the characters that separate parts.
-/

namespace Geocoding

/-- Why a text is no address on the web. -/
inductive UrlError
  | relative
  | emptyHost
  | socket
  | ipv6
  | ipv4
  | domainName
  | hostCharacter
deriving DecidableEq, Repr

def UrlError.message : UrlError → String
  | relative => "relative URL without a base"
  | emptyHost => "empty host"
  | socket => "invalid port number"
  | ipv6 => "invalid IPv6 address"
  | ipv4 => "invalid IPv4 address"
  | domainName => "invalid international domain name"
  | hostCharacter => "invalid domain character"

namespace Url

/-- Where a question is sent.  The empty name stands for no host. -/
inductive Host
  | name (text : List Char)
  | ipv4 (number : Nat)
  | ipv6 (pieces : List Nat)
deriving DecidableEq, Repr

namespace Host

def text : Host → List Char
  | name characters => characters
  | ipv4 number => Numeric.ipv4Text number
  | ipv6 pieces => '[' :: Numeric.ipv6Text pieces ++ [']']

def readIpv6 (text : List Char) : Except UrlError Host :=
  match text.getLast?, Numeric.ipv6? text.dropLast with
  | some ']', some pieces => .ok (.ipv6 pieces)
  | _, _ => .error .ipv6

def readSpecial : List Char → Except UrlError Host
  | '[' :: rest => readIpv6 rest
  | characters =>
    match (Text.ofBytes? (Percent.decode characters)).bind Domain.toAscii? with
    | none => .error .domainName
    | some ascii =>
      if ascii.isEmpty then .error .emptyHost
      else if Numeric.endsInNumber ascii then
        match Numeric.ipv4? ascii with
        | some number => .ok (.ipv4 number)
        | none => .error .ipv4
      else .ok (.name ascii)

def readOther : List Char → Except UrlError Host
  | '[' :: rest => readIpv6 rest
  | characters =>
    if characters.any Domain.separates then .error .hostCharacter
    else .ok (.name (Percent.encode Percent.isControl characters))

end Host

end Url

end Geocoding
