import MessageBus.Address.Percent
/-!
# IPv4 addresses as host names

A host name whose last label is a number has to be an IPv4 address: up to four numbers, of which the last stands for all
bytes that are left. A number is decimal, octal after a zero, or hexadecimal after a zero and an x.
-/

namespace MessageBus.Address.Ipv4

/-- The number with the digits in the base, if they are digits of the base. -/
def digitsValue? (base : Nat) (cs : List Char) : Option Nat :=
  cs.foldlM (fun n c => ((hexValue? c).filter (· < base)).map (n * base + ·)) 0

/-- The number that a label is. -/
def number? : List Char → Option Nat
  | [] => none
  | '0' :: 'x' :: cs => digitsValue? 16 cs
  | '0' :: c :: cs => digitsValue? 8 (c :: cs)
  | cs => digitsValue? 10 cs

/-- The labels without an empty one at the end. -/
def proper (labels : List (List Char)) : List (List Char) :=
  if labels.getLast? = some [] then labels.dropLast else labels

/-- Whether the last label is a number, or has only digits. -/
def endsInNumber (labels : List (List Char)) : Bool :=
  (proper labels).getLast?.any fun cs => (number? cs).isSome || (!cs.isEmpty && cs.all Char.isDigit)

/-- Whether numbers stand for four bytes. -/
def isAddress (labels : List (List Char)) : Bool :=
  match (proper labels).mapM number? with
  | none => false
  | some ns => ns.length ≤ 4 && ns.dropLast.all (· ≤ 0xff) && ns.getLast?.any (· < Nat.pow 256 (5 - ns.length))

end MessageBus.Address.Ipv4
