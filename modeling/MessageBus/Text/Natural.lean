/-!
# Reading a natural number with a bound

Decimal digits, with a plus sign before them at most, read from the left: at each place a character that is no digit
is refused before a value that has grown over the bound.
-/

namespace MessageBus.Text

/-- Why a text is not a natural number within the bound. -/
inductive NumberFlaw where
  /-- Nothing to read. -/
  | empty
  /-- A character that is no decimal digit, or a sign alone. -/
  | invalidDigit
  /-- More than the bound. -/
  | tooLarge
  deriving DecidableEq, Repr

namespace NumberFlaw

/-- The flaw in words. -/
def message : NumberFlaw → String
  | empty => "cannot parse integer from empty string"
  | invalidDigit => "invalid digit found in string"
  | tooLarge => "number too large to fit in target type"

end NumberFlaw

/-- Reads the remaining digits after those that make `value`. -/
def digitsFrom (bound value : Nat) : List Char → Except NumberFlaw Nat
  | [] => .ok value
  | c :: cs =>
    if c.isDigit then
      let next := value * 10 + (c.toNat - '0'.toNat)
      if next ≤ bound then digitsFrom bound next cs else .error .tooLarge
    else .error .invalidDigit

/-- Reads a natural number that is at most `bound`. -/
def readNatural (bound : Nat) (s : String) : Except NumberFlaw Nat :=
  match s.toList with
  | [] => .error .empty
  | ['+'] => .error .invalidDigit
  | '+' :: cs => digitsFrom bound 0 cs
  | cs => digitsFrom bound 0 cs

end MessageBus.Text
