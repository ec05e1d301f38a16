import MessageBus.Address.Percent
import MessageBus.Text.Parts
/-!
# IPv6 addresses

An IPv6 address has eight groups of hexadecimal digits, of which two colons in a row stand for one or more that are zero,
and of which the last two may be written as an IPv4 address.
-/

namespace MessageBus.Address

open Text (parts)

/-- Whether a part is a decimal byte, without leading zeros. -/
def isByteText (cs : List Char) : Bool :=
  0 < cs.length && cs.length ≤ 3 && cs.all Char.isDigit && (cs.head? ≠ some '0' || cs.length = 1)
    && cs.foldl (fun n c => n * 10 + (c.toNat - '0'.toNat)) 0 ≤ 255

/-- How many groups a part is: one if it is up to four hexadecimal digits, two if it is an IPv4 address. -/
def groupsOf? (isLast : Bool) (cs : List Char) : Option Nat :=
  if 0 < cs.length && cs.length ≤ 4 && cs.all fun c => (hexValue? c).isSome then some 1
  else
    let bytes := parts '.' cs
    if isLast && bytes.length = 4 && bytes.all isByteText then some 2 else none

/-- How many groups parts are; only the last may be an IPv4 address, if it ends the whole address. -/
def groupCount? (endsAddress : Bool) : List (List Char) → Option Nat
  | [] => some 0
  | p :: ps =>
    (groupsOf? (endsAddress && ps.isEmpty) p).bind fun n => (groupCount? endsAddress ps).map (n + ·)

/-- What stands before and after the first two colons in a row. -/
def splitAtGap? : List Char → Option (List Char × List Char)
  | ':' :: ':' :: rest => some ([], rest)
  | c :: rest => (splitAtGap? rest).map fun (before, after) => (c :: before, after)
  | [] => none

/-- The parts of a side of the gap, which may be empty. -/
def sideParts (cs : List Char) : List (List Char) := if cs.isEmpty then [] else parts ':' cs

/-- Whether a text is an IPv6 address. -/
def isIpv6 (cs : List Char) : Bool :=
  match splitAtGap? cs with
  | none => groupCount? true (parts ':' cs) = some 8
  | some (before, after) =>
    match groupCount? false (sideParts before), groupCount? true (sideParts after) with
    | some n, some m => n + m ≤ 7
    | _, _ => false

end MessageBus.Address
