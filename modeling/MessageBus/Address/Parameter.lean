import MessageBus.Address.Flaw
import MessageBus.Address.Percent
import MessageBus.Text.Lowercase
import MessageBus.Text.Parts
/-!
# The parameters of an address

Parameters are names with values. The connection looks up five of them, one after the other, and takes the first of each
name; the others are passed over.
-/

namespace MessageBus.Address

/-- The text of a name or a value; bytes that are no text are replaced by a mark. -/
def parameterText (cs : List Char) : String :=
  (percentDecode (cs.map fun c => if c = '+' then ' ' else c)).toMendedText

/-- The names and values of the parameters in a query. -/
def parameters (query : List Char) : List (String × String) :=
  ((Text.parts '&' query).filter (!·.isEmpty)).map fun p =>
    let name := p.takeWhile (· ≠ '=')
    (parameterText name, parameterText (p.drop (name.length + 1)))

/-- The parameters that are numbers, in the order in which they are looked up, with the largest value of each. -/
def numericParameters : List (String × Nat) :=
  [("frame_max", 0xffffffff), ("channel_max", 0xffff), ("heartbeat", 0xffff),
    ("connection_timeout", 0xffffffffffffffff)]

/-- The names of the ways to log in. -/
def mechanisms : List String := ["amqplain", "external", "plain", "rabbit-cr-demo"]

/-- The flaw of a parameter that is a number. -/
def numberFlaw? (bound : Nat) (value : String) : Option Flaw :=
  match Text.readNatural bound value with
  | .ok _ => none
  | .error f => some (.badNumber f)

/-- The flaw of the way to log in. -/
def mechanismFlaw? (value : String) : Option Flaw :=
  let name := Text.lowercase value
  if name ∈ mechanisms then none else some (.unknownMechanism name)

/-- The first flaw of the parameters in a query. -/
def parametersFlaw? (query : List Char) : Option Flaw :=
  let ps := parameters query
  let value? (name : String) : Option String := (ps.find? (·.1 = name)).map (·.2)
  (numericParameters.findSome? fun (name, bound) => (value? name).bind (numberFlaw? bound)).or
    ((value? "auth_mechanism").bind mechanismFlaw?)

end MessageBus.Address
