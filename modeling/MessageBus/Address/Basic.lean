import MessageBus.Address.Parameter
import MessageBus.Address.Path
/-!
# The address of a broker

An address is a URI: a scheme, an authority with the user, the password, the host and the port, a path that names the
virtual host, and parameters. What is missing has a default. Reading finds the first flaw, in the order of the parts as
they stand, but looks into escapes and parameters only when the whole is well formed.
-/

namespace MessageBus

/-- The address of a broker. -/
structure Address where
  secure : Bool
  user : String
  password : String
  host : String
  port : Nat
  vhost : String
  deriving DecidableEq, Repr

namespace Address

/-! ## Splitting -/

/-- The characters that count: those at the ends up to the space and all line breaks and tabs are dropped. -/
def significant (s : String) : List Char :=
  let isEdge (c : Char) : Bool := c ≤ ' '
  let cs := ((s.toList.dropWhile isEdge).reverse.dropWhile isEdge).reverse
  cs.filter fun c => c ≠ '\t' && c ≠ '\n' && c ≠ '\r'

/-- Whether a character can stand in a scheme, after its first. -/
def isSchemeChar (c : Char) : Bool := c.isAlphanum || c = '+' || c = '-' || c = '.'

/-- The scheme in small letters, and what follows its colon. -/
def splitScheme? (cs : List Char) : Option (String × List Char) :=
  match cs with
  | [] => none
  | first :: _ =>
    if !first.isAlpha then none
    else match cs.dropWhile isSchemeChar with
      | ':' :: rest => some (String.ofList ((cs.takeWhile isSchemeChar).map Char.toLower), rest)
      | _ => none

/-- Whether the scheme is one of the web, whose addresses always have a host. -/
def isWebScheme (scheme : String) : Bool := scheme ∈ ["http", "https", "ws", "wss", "ftp"]

/-- Whether a character ends the authority. -/
def endsAuthority (web : Bool) (c : Char) : Bool := c = '/' || c = '?' || c = '#' || (web && c = '\\')

/-- What stands before the last of a character, and what stands after it. -/
def splitLast? (sep : Char) (cs : List Char) : Option (List Char × List Char) :=
  let after := (cs.reverse.takeWhile (· ≠ sep)).reverse
  if after.length = cs.length then none else some (cs.take (cs.length - after.length - 1), after)

/-- The host at the beginning of a text, and what follows it: a colon ends it outside of square brackets. -/
def splitHost (web inBrackets : Bool) : List Char → List Char × List Char
  | [] => ([], [])
  | c :: rest =>
    if endsAuthority web c || (c = ':' && !inBrackets) then ([], c :: rest)
    else
      let (host, after) := splitHost web (c = '[' || (inBrackets && c ≠ ']')) rest
      (c :: host, after)

/-- Reads a port, and gives what follows it. -/
def readPort (n : Nat) (any : Bool) : List Char → Except Flaw (Option Nat × List Char)
  | [] => .ok (if any then some n else none, [])
  | c :: rest =>
    if c.isDigit then
      let n := n * 10 + (c.toNat - '0'.toNat)
      if n ≤ 0xffff then readPort n true rest else .error .invalidPort
    else if c = '/' || c = '\\' || c = '?' || c = '#' then .ok (if any then some n else none, c :: rest)
    else .error .invalidPort

/-- The authority of an address, with its escapes. -/
structure Authority where
  user : List Char
  password : List Char
  host : List Char
  port : Option Nat

/-- Reads the authority at the beginning of a text, and gives what follows it. -/
def readAuthority (web : Bool) (cs : List Char) : Except Flaw (Authority × List Char) := do
  let (userInfo, rest) ← match splitLast? '@' (cs.takeWhile fun c => !endsAuthority web c) with
    | none => .ok ([], cs)
    | some (userInfo, _) =>
      let rest := cs.drop (userInfo.length + 1)
      if userInfo.isEmpty && rest.head?.any (endsAuthority web) then .error .emptyHost
      else .ok (userInfo, rest)
  let (host, rest) := splitHost web false rest
  if web && host.isEmpty then throw .emptyHost
  if let some f := hostFlaw? web host then throw f
  let (port, rest) ← match rest with
    | ':' :: digits => if host.isEmpty then .error .emptyHost else readPort 0 false digits
    | _ => .ok (none, rest)
  if host.isEmpty && userInfo ≠ [] && userInfo ≠ [':'] then throw .emptyHost
  let user := userInfo.takeWhile (· ≠ ':')
  return (⟨user, userInfo.drop (user.length + 1), host, port⟩, rest)

/-! ## Reading -/

/-- The user and the password without which one logs in. -/
def guest : String := "guest"

/-- The text of characters with escapes. -/
def decoded (cs : List Char) : Except Flaw String := (percentText cs).mapError .undecodable

/-- The port of a broker whose address has none. -/
def standardPort (secure : Bool) : Nat := if secure then 5671 else 5672

/-- What follows the authority: the path and the parameters. -/
def splitPath (rest : List Char) : List Char × List Char :=
  let path := rest.takeWhile fun c => c ≠ '?' && c ≠ '#'
  match rest.drop path.length with
  | '?' :: query => (path, query.takeWhile (· ≠ '#'))
  | _ => (path, [])

/-- The address of the parts. -/
def ofParts (scheme : String) (a : Authority) (rest : List Char) : Except Flaw Address := do
  let secure ← match scheme with
    | "amqp" => .ok false
    | "amqps" => .ok true
    | other => .error (.unknownScheme other)
  let (path, query) := splitPath rest
  let user ← if a.user.isEmpty then .ok guest else decoded a.user
  let password ← if a.password.isEmpty then .ok guest else decoded a.password
  let host ← if a.host.isEmpty || a.host.head? = some '[' then .ok "localhost" else decoded a.host
  let vhost ← if path.isEmpty then .ok "/" else decoded (vhostOfPath path)
  if let some f := parametersFlaw? query then throw f
  return ⟨secure, user, password, host, a.port.getD (standardPort secure), vhost⟩

/-- The flaw of an address of a file, of which only the host counts. -/
def fileFlaw (rest : List Char) : Flaw :=
  let isSlash (c : Char) : Bool := c = '/' || c = '\\'
  let host := (rest.drop 2).takeWhile fun c => !endsAuthority true c
  if (rest.take 2).all isSlash && !host.isEmpty && !isDrive host then
    (hostFlaw? true host).getD (.unknownScheme "file")
  else .unknownScheme "file"

/-- Reads an address. -/
def read (s : String) : Except Flaw Address := do
  match splitScheme? (significant s) with
  | none => throw .relative
  | some (scheme, rest) =>
    if isWebScheme scheme then
      let (a, rest) ← readAuthority true (rest.dropWhile fun c => c = '/' || c = '\\')
      ofParts scheme a rest
    else if scheme = "file" then throw (fileFlaw rest)
    else match rest with
      | '/' :: '/' :: rest =>
        let (a, rest) ← readAuthority false rest
        ofParts scheme a rest
      | '/' :: _ => ofParts scheme ⟨[], [], [], none⟩ rest
      | _ => throw (.shapeless s)

end Address

end MessageBus
