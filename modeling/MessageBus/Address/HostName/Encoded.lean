/-!
# Encoded labels

A label can be written with letters, digits and hyphens of ASCII alone: its ASCII characters first, then, behind a
hyphen, where which others go. The others come in the order of their code points; each is a number that says how many
steps it is from the one before, a step going to the next place in the label or, from the last place, to the next code
point. Numbers are written with the small digits first, and the base of the digits follows the size of the numbers.
-/

namespace MessageBus.Address.HostName.Encoded

/-- The value of a digit. -/
def digitValue? (c : Char) : Option Nat :=
  if 'a' ≤ c ∧ c ≤ 'z' then some (c.toNat - 'a'.toNat)
  else if 'A' ≤ c ∧ c ≤ 'Z' then some (c.toNat - 'A'.toNat)
  else if c.isDigit then some (c.toNat - '0'.toNat + 26)
  else none

/-- From which value on a digit at a place is not the last one of its number. Places count by 36. -/
def threshold (bias place : Nat) : Nat :=
  max 1 (min 26 (place - bias))

/-- A number, and the digits after it: `value` and `weight` are of the digits before. -/
def number? (bias place weight value : Nat) : List Char → Option (Nat × List Char)
  | [] => none
  | c :: cs =>
    match digitValue? c with
    | none => none
    | some d =>
      let t := threshold bias place
      if d < t then some (value + d * weight, cs)
      else number? bias (place + 36) (weight * (36 - t)) (value + d * weight) cs

/-- A number takes at least one digit. -/
theorem length_of_number? {bias place weight value n : Nat} {cs rest : List Char}
    (h : number? bias place weight value cs = some (n, rest)) : rest.length < cs.length := by
  fun_induction number? bias place weight value cs with
  | case1 => simp at h
  | case2 => simp at h
  | case3 => simp_all
  | case4 _ _ _ _ _ _ _ _ _ ih => exact Nat.lt_succ_of_lt (ih h)

/-- How often 35 goes into a number until it is small, and what is left. -/
def shrink (n : Nat) : Nat × Nat :=
  if 455 < n then
    let (times, left) := shrink (n / 35)
    (times + 1, left)
  else (0, n)
termination_by n
decreasing_by exact Nat.div_lt_self (by omega) (by omega)

/-- The bias after a number, which was the first or not, in a label that has become so long. -/
def nextBias (n length : Nat) (first : Bool) : Nat :=
  let scaled := if first then n / 700 else n / 2
  let (times, left) := shrink (scaled + scaled / length)
  36 * times + 36 * left / (left + 38)

/-- Puts the characters of the numbers into a label; `point` and `place` are those of the character put in before. -/
def fill? (bias point place : Nat) (label : List Char) (cs : List Char) : Option (List Char) :=
  match cs with
  | [] => some label
  | c :: rest =>
    match h : number? bias 36 1 0 (c :: rest) with
    | none => none
    | some (n, behind) =>
      let length := label.length + 1
      let point := point + (place + n) / length
      let place' := (place + n) % length
      if point.isValidChar then
        fill? (nextBias n length (place = 0)) point (place' + 1)
          (label.insertIdx place' (Char.ofNat point)) behind
      else none
termination_by cs.length
decreasing_by exact length_of_number? h

/-- What stands before the last hyphen, and what stands behind it; a hyphen at the beginning does not count. -/
def splitHyphen (cs : List Char) : List Char × List Char :=
  let behind := (cs.reverse.takeWhile (· ≠ '-')).reverse
  let before := cs.take (cs.length - behind.length - 1)
  if before.isEmpty then ([], cs) else (before, behind)

/-- The label that is encoded. -/
def decode? (cs : List Char) : Option (List Char) :=
  let (label, numbers) := splitHyphen cs
  if label.all (·.toNat < 0x80) then fill? 72 0x80 0 label numbers else none

end MessageBus.Address.HostName.Encoded
