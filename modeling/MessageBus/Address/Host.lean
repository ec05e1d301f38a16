import MessageBus.Address.Flaw
import MessageBus.Address.HostName.Basic
import MessageBus.Address.Ipv4
import MessageBus.Address.Ipv6
/-!
# Hosts

A host is an IPv6 address in square brackets or a name. The addresses of the web have host names with escapes, which may
be IPv4 addresses; all other addresses have names of any characters that the address itself does not need.
-/

namespace MessageBus.Address

/-- The characters that no name has. -/
def forbiddenInHost : List Char :=
  ['\x00', '\t', '\n', '\r', ' ', '#', '/', ':', '<', '>', '?', '@', '[', '\\', ']', '^', '|']

/-- The flaw of an IPv6 address in square brackets, of which the first is there. -/
def bracketedFlaw? (host : List Char) : Option Flaw :=
  if host.getLast? = some ']' && isIpv6 host.tail.dropLast then none else some .invalidIpv6

/-- The flaw of a host name of the web. -/
def hostNameFlaw? (host : List Char) : Option Flaw :=
  match (percentDecode host).toText?.bind fun s => HostName.read? s.toList with
  | none => some .invalidHostName
  | some labels =>
    if labels = [[]] then some .emptyHost
    else if Ipv4.endsInNumber labels && !Ipv4.isAddress labels then some .invalidIpv4
    else none

/-- The flaw of a host. -/
def hostFlaw? (web : Bool) (host : List Char) : Option Flaw :=
  if host.head? = some '[' then bracketedFlaw? host
  else if web then hostNameFlaw? host
  else if host.any (· ∈ forbiddenInHost) then some .invalidHostCharacter
  else none

/-- Whether a text is a letter and a mark for a drive, which begin a path and not a host. -/
def isDrive : List Char → Bool
  | [c, d] => c.isAlpha && (d = ':' || d = '|')
  | _ => false

end MessageBus.Address
