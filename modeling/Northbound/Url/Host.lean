import Northbound.Bytes
import Northbound.Url.Ip
import Northbound.Url.Label
import Northbound.Url.Percent

/-!
# Hosts

The host of an address: a name, or an internet address. The name of a host on the web is mapped to
plain characters first, and one whose last part is a number can only be an internet address.
-/

namespace Northbound.Url

/-- The host of an address. -/
inductive Host where
  | domain (name : String)
  | ipv4 (octets : List Nat)
  | ipv6 (groups : List Nat)
deriving DecidableEq, Repr

namespace Host

/-- The host as it stands in an address. -/
def render : Host → String
  | .domain name => name
  | .ipv4 octets => String.ofList (ipv4Chars octets)
  | .ipv6 groups => String.ofList ('[' :: ipv6Chars groups ++ [']'])

/-- The host that a plain name denotes. -/
def ofName? (name : List Char) : Option Host :=
  if name.isEmpty then none
  else if endsInNumber name then (readLooseIpv4 name).map .ipv4
  else some (.domain (String.ofList name))

/-- The internet address that characters in brackets denote, given without the first bracket. -/
def inBrackets? (cs : List Char) : Option Host :=
  if cs.getLast? = some ']' then (readIpv6 cs.dropLast).map .ipv6 else none

/-- The host that characters denote in a web address: an internet address in brackets, or a name in
which percent signs are decoded. -/
def parse? (cs : List Char) : Option Host :=
  match cs with
  | '[' :: rest => inBrackets? rest
  | _ => do
    let name ← utf8Decode? (percentDecode (utf8 (String.ofList cs)))
    ofName? (← asciiName? name.toList)

/-- The characters that may not stand in a host outside the web. -/
def isForbiddenElsewhere (c : Char) : Bool :=
  "\x00\t\n\r #/:<>?@[\\]^|".toList.contains c

/-- The host that characters denote outside the web, where all names are kept. -/
def parseElsewhere? (cs : List Char) : Option Host :=
  match cs with
  | '[' :: rest => inBrackets? rest
  | _ =>
    if cs.any isForbiddenElsewhere then none
    else some (.domain (String.ofList (percentEncode isControl cs)))

end Host

end Northbound.Url
