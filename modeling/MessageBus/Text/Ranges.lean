/-!
# Sets of code points as ranges
-/

namespace MessageBus.Text

/-- A set of code points, as the ranges (both ends included) that make it up. -/
abbrev Ranges := Array (Nat × Nat)

namespace Ranges

/-- Whether the character's code point lies in one of the ranges. -/
def contains (r : Ranges) (c : Char) : Bool :=
  r.any fun (first, last) => first ≤ c.toNat && c.toNat ≤ last

end Ranges

end MessageBus.Text
