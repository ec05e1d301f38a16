import MessageBus.Json.Cursor
import MessageBus.Text.Decimal
/-!
# Numbers in a JSON text

A number without fraction and exponent that fits in 64 bits is an integer; every other number, and minus zero, is read
as a floating-point number of double precision.
-/

namespace MessageBus.Json

/-- A number as it is written. -/
inductive Numeral where
  | integer (n : Int)
  | float (x : Float)

/-- The greatest integer of 64 bits. -/
def maxWord : Nat := 0xffffffffffffffff

/-- Takes digits onto a significand for as long as it fits in 64 bits; also the number of digits taken. -/
def takeDigits (significand taken : Nat) : Bytes → Nat × Nat
  | [] => (significand, taken)
  | b :: rest =>
    let c := Char.ofUInt8 b
    let more := significand * 10 + (c.toNat - '0'.toNat)
    if c.isDigit && more ≤ maxWord then takeDigits more (taken + 1) rest else (significand, taken)

/-- A significand times a power of ten, in steps that stay finite; none if the number is too large. -/
def scaleFloat (x : Float) (exponent : Int) : Nat → Option Float
  | 0 => some x
  | fuel + 1 =>
    if exponent.natAbs ≤ 308 then
      let power := Float.ofScientific 1 false exponent.natAbs
      if 0 ≤ exponent then
        let y := x * power
        if y.isInf then none else some y
      else some (x / power)
    else if x == 0 then some x
    else if 0 ≤ exponent then none
    else scaleFloat (x / Float.ofScientific 1 false 308) (exponent + 308) fuel

namespace Reader

/-- Takes digits onto a significand for as long as it fits; the new significand and the number of digits taken. -/
def digitsOnto (significand : Nat) : Reader (Nat × Nat) := do
  let cur ← get
  let (s, n) := takeDigits significand 0 cur.rest
  set (⟨cur.rest.drop n, cur.index + n⟩ : Cursor)
  return (s, n)

/-- Whether a digit comes next. -/
def atDigit : Reader Bool := do
  return ((← peek).map Char.isDigit).getD false

/-- The number with the sign, the significand and the power of ten. -/
def float (positive : Bool) (significand : Nat) (exponent : Int) : Reader Numeral := do
  match scaleFloat (UInt64.ofNat significand).toFloat exponent 8 with
  | none => failHere .numberOutOfRange
  | some x => return .float (if positive then x else -x)

/-- Reads the exponent, from its letter on. -/
def exponent (positive : Bool) (significand : Nat) (start : Int) : Reader Numeral := do
  advance
  let up ← match ← peek with
    | some '+' => advance; pure true
    | some '-' => advance; pure false
    | _ => pure true
  match ← next with
  | none => failHere (.unfinished .value)
  | some c =>
    if !c.isDigit then failHere .invalidNumber
    else
      let cur ← get
      let ds := cur.rest.takeWhile fun b => (Char.ofUInt8 b).isDigit
      let value := ds.foldl (fun n b => n * 10 + (b.toNat - '0'.toNat)) (c.toNat - '0'.toNat)
      if value ≤ 0x7fffffff then
        let _ ← skipDigits
        float positive significand (if up then start + value else start - value)
      else
        -- the digit that takes the exponent over its bound is taken, and the rest only if the number is none the worse
        if significand ≠ 0 && up then
          let _ ← overflowAt (c.toNat - '0'.toNat)
          failHere .numberOutOfRange
        else
          let _ ← skipDigits
          return .float (if positive then 0.0 else -0.0)
where
  /-- Takes digits up to the one with which the exponent leaves its range. -/
  overflowAt (value : Nat) : Reader Unit := do
    let cur ← get
    let n := steps value cur.rest
    set (⟨cur.rest.drop n, cur.index + n⟩ : Cursor)
  /-- The number of digits up to that one. -/
  steps (value : Nat) : Bytes → Nat
    | [] => 0
    | b :: rest =>
      let more := value * 10 + (b.toNat - '0'.toNat)
      if more ≤ 0x7fffffff then steps more rest + 1 else 1

/-- Reads the fraction, from its point on. -/
def fraction (positive : Bool) (significand : Nat) (start : Int) : Reader Numeral := do
  advance
  let (s, n) ← digitsOnto significand
  let more ← skipDigits
  if n = 0 ∧ more = 0 then
    match ← peek with
    | some _ => failAhead .invalidNumber
    | none => failAhead (.unfinished .value)
  else
    match ← peek with
    | some 'e' | some 'E' => exponent positive s (start - n)
    | _ => float positive s (start - n)

/-- Reads a number, from the first digit on. -/
def numeral (positive : Bool) : Reader Numeral := do
  match ← next with
  | none => failHere (.unfinished .value)
  | some '0' => if ← atDigit then failAhead .invalidNumber else tail 0
  | some c =>
    if !c.isDigit then failHere .invalidNumber
    else
      let (s, _) ← digitsOnto (c.toNat - '0'.toNat)
      let more ← skipDigits
      if more = 0 then tail s
      else
        match ← peek with
        | some '.' => fraction positive s more
        | some 'e' | some 'E' => exponent positive s more
        | _ => float positive s more
where
  /-- What follows an integer part that fits. -/
  tail (s : Nat) : Reader Numeral := do
    match ← peek with
    | some '.' => fraction positive s 0
    | some 'e' | some 'E' => exponent positive s 0
    | _ =>
      if positive then return .integer s
      else if s = 0 then return .float (-0.0)
      else if s ≤ 0x8000000000000000 then return .integer (-s)
      else return .float (-(UInt64.ofNat s).toFloat)

end Reader

end MessageBus.Json
