import MessageBus.Text.Bytes
/-!
# Percent escapes

In an address a percent sign and two hexadecimal digits stand for a byte; every other character stands for its own UTF-8
bytes.
-/

namespace MessageBus.Address

/-- The value of a hexadecimal digit. -/
def hexValue? (c : Char) : Option Nat :=
  if c.isDigit then some (c.toNat - '0'.toNat)
  else if 'a' ≤ c && c ≤ 'f' then some (c.toNat - 'a'.toNat + 10)
  else if 'A' ≤ c && c ≤ 'F' then some (c.toNat - 'A'.toNat + 10)
  else none

/-- The byte of an escape with these digits. -/
def escapedByte? (a b : Char) : Option UInt8 :=
  (hexValue? a).bind fun x => (hexValue? b).map fun y => UInt8.ofNat (16 * x + y)

/-- The bytes that characters with escapes among them stand for. -/
def percentDecode : List Char → Bytes
  | '%' :: a :: b :: rest =>
    match escapedByte? a b with
    | some x => x :: percentDecode rest
    | none => 0x25 :: percentDecode (a :: b :: rest)
  | c :: rest => Bytes.ofText (String.singleton c) ++ percentDecode rest
  | [] => []

/-- The text that characters with escapes among them stand for. -/
def percentText (cs : List Char) : Except Bytes.Flaw String :=
  let b := percentDecode cs
  match b.toText? with
  | some s => .ok s
  | none => .error (b.flaw.getD ⟨0, none⟩)

end MessageBus.Address
