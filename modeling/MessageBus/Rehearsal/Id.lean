/-!
# Made ids

A rehearsal makes ids by counting. A made id has the form of a random id: digits in base sixteen in five groups, with
the version and the variant at their places. By this form it is told from other texts, also where it stands at the end
of a longer one.
-/

namespace MessageBus.Rehearsal

/-- The four groups with which every made id begins, and the hyphen behind them. -/
def idStem : List Char :=
  ['5', 'e', '0', 'd', '7', 'c', '1', 'a', '-', '9', '3', 'b', '4', '-', '4', 'f', '6', '8', '-', 'a', '2', '1', 'c',
    '-']

/-- The id with a number. -/
def madeId (n : Nat) : String :=
  let digits := Nat.toDigits 16 n
  String.ofList (idStem ++ List.replicate (12 - digits.length) '0' ++ digits)

/-- How many characters an id has. -/
def idLength : Nat := 36

/-- Whether a random id can have the character at the place. -/
def fitsId (c : Char) (place : Nat) : Bool :=
  if place ∈ [8, 13, 18, 23] then c == '-'
  else if place = 14 then c == '4'
  else if place = 19 then c ∈ ['8', '9', 'a', 'b']
  else c.isDigit || ('a' ≤ c && c ≤ 'f')

/-- What stands before the id at the end of a text, and the id. -/
def splitId? (s : String) : Option (String × String) :=
  let cs := s.toList
  let front := cs.length - idLength
  let id := cs.drop front
  if id.length = idLength ∧ id.zipIdx.all fun (c, place) => fitsId c place then
    some (String.ofList (cs.take front), String.ofList id)
  else none

/-- Whether the whole text is an id. -/
def isId (s : String) : Bool :=
  (splitId? s).any (·.1 = "")

end MessageBus.Rehearsal
