import MessageBus.Text.Bytes
import MessageBus.Text.Natural
/-!
# What can be wrong with the address of a broker
-/

namespace MessageBus.Address

/-- Why a text is not an address. -/
inductive Flaw where
  /-- It does not begin with a scheme. -/
  | relative
  /-- Nothing hierarchical follows the scheme. -/
  | shapeless (s : String)
  | emptyHost
  | invalidPort
  | invalidIpv4
  | invalidIpv6
  | invalidHostCharacter
  | invalidHostName
  | unknownScheme (scheme : String)
  | undecodable (f : Bytes.Flaw)
  | badNumber (f : Text.NumberFlaw)
  | unknownMechanism (name : String)
  deriving DecidableEq, Repr

namespace Flaw

/-- The flaw in words. -/
def message : Flaw → String
  | relative => "relative URL without a base"
  | shapeless s => "Invalid URL: '" ++ s ++ "'"
  | emptyHost => "empty host"
  | invalidPort => "invalid port number"
  | invalidIpv4 => "invalid IPv4 address"
  | invalidIpv6 => "invalid IPv6 address"
  | invalidHostCharacter => "invalid domain character"
  | invalidHostName => "invalid international domain name"
  | unknownScheme scheme => "Invalid AMQP scheme: " ++ scheme
  | undecodable f => f.message
  | badNumber f => f.message
  | unknownMechanism name => "Invalid SASL mechanism: " ++ name

end Flaw

end MessageBus.Address
