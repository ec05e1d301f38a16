/-!
# Shortest decimal text of a floating-point number

A finite number m · 2^q is shown by the fewest digits that read back as it, and by the nearest of those. The search
goes over the decimal grids of 1, 2, … 17 digits: of each grid only the two neighbours of the number can be nearest, and
they are tested in exact arithmetic against the interval of reals that round to the number.
-/

namespace MessageBus.Text

/-- A positive number `num / den` between the reals `low / den` and `high / den` that still round to it, which
belong to the interval themselves if `closed`. -/
structure Rounding where
  num : Nat
  den : Nat
  low : Nat
  high : Nat
  closed : Bool

/-- The interval of the number `m · 2^q`; below a power of two that is not `least` the neighbour is only half as far. -/
def Rounding.ofBinary (m : Nat) (q : Int) (halved : Bool) : Rounding :=
  let scale := Nat.pow 2 (q - 2).toNat
  let den := Nat.pow 2 (2 - q).toNat
  let below := if halved then 1 else 2
  ⟨4 * m * scale, den, (4 * m - below) * scale, (4 * m + 2) * scale, m % 2 == 0⟩

/-- Whether `d · 10^k` lies in the interval. -/
def Rounding.holds (r : Rounding) (d : Nat) (k : Int) : Bool :=
  let up := d * Nat.pow 10 k.toNat * r.den
  let down := Nat.pow 10 (-k).toNat
  if r.closed then r.low * down ≤ up && up ≤ r.high * down else r.low * down < up && up < r.high * down

/-- The power of ten of the first digit of `num / den`. -/
def Rounding.magnitude (r : Rounding) : Int :=
  if r.den ≤ r.num then (Nat.toDigits 10 (r.num / r.den)).length - 1
  else go 1 400
where
  /-- Looks for the first shift by powers of ten that brings the number to one. -/
  go (j : Nat) : Nat → Int
    | 0 => -(j : Int)
    | fuel + 1 => if r.den ≤ r.num * Nat.pow 10 j then -(j : Int) else go (j + 1) fuel

/-- The nearer of the two grid points at `10^k` around the number that lie in the interval. -/
def Rounding.onGrid (r : Rounding) (k : Int) : Option Nat :=
  let up := r.num * Nat.pow 10 (-k).toNat
  let unit := r.den * Nat.pow 10 k.toNat
  let d := up / unit
  let doubled := 2 * (up % unit)
  match r.holds d k, r.holds (d + 1) k with
  | true, true => if doubled < unit || (doubled == unit && d % 2 == 0) then some d else some (d + 1)
  | true, false => some d
  | false, true => some (d + 1)
  | false, false => none

/-- The digits and the power of ten of the last one, from the grid of `n` digits on. -/
def Rounding.shortestFrom (r : Rounding) (n : Nat) : Nat → Nat × Int
  | 0 => (r.num / r.den, 0)
  | fuel + 1 =>
    let k := r.magnitude - (n : Int) + 1
    match r.onGrid k with
    | some d => (d, k)
    | none => r.shortestFrom (n + 1) fuel

/-- Takes the zeros off the end of a digit string. -/
def stripZeros (digits : List Char) : List Char × Nat :=
  let kept := (digits.reverse.dropWhile (· == '0')).reverse
  (kept, digits.length - kept.length)

/-- Digits and the power of ten of the first: positional from 10^-5 up to 10^16, always with a point; otherwise with
a signed exponent. -/
def placePoint (digits : List Char) (first : Int) : List Char :=
  if first < -5 ∨ 15 < first then
    let mantissa := match digits with
      | [] => ['0']
      | [d] => [d]
      | d :: ds => d :: '.' :: ds
    mantissa ++ 'e' :: (if first < 0 then '-' else '+') :: Nat.toDigits 10 first.natAbs
  else if first < 0 then
    '0' :: '.' :: List.replicate (first.natAbs - 1) '0' ++ digits
  else
    let whole := first.toNat + 1
    let head := digits.take whole
    let tail := digits.drop whole
    head ++ List.replicate (whole - head.length) '0' ++ '.' :: (if tail.isEmpty then ['0'] else tail)

/-- The shortest text of a finite number of double precision. -/
def shortest (x : Float) : String :=
  let bits := x.toBits.toNat
  let exponent : Nat := bits / 0x10000000000000 % 0x800
  let fraction : Nat := bits % 0x10000000000000
  let sign := if 0x8000000000000000 ≤ bits then ['-'] else []
  if exponent = 0 ∧ fraction = 0 then String.ofList (sign ++ ['0', '.', '0'])
  else
    let m := if exponent = 0 then fraction else 0x10000000000000 + fraction
    let q : Int := if exponent = 0 then -1074 else Int.ofNat exponent - 1075
    let (d, k) := (Rounding.ofBinary m q (fraction == 0 && 1 < exponent)).shortestFrom 1 17
    let (digits, zeros) := stripZeros (Nat.toDigits 10 d)
    String.ofList (sign ++ placePoint digits (k + Int.ofNat (zeros + digits.length) - 1))

end MessageBus.Text
